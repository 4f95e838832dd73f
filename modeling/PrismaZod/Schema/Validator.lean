/-!
# Validator expressions

A validator is built from a primitive, a class or the schema of another entity,
wrapped as a list, as something that may be null, or with a default.
-/

namespace PrismaZod

/-- A default that can be written down. -/
inductive Literal
  /-- Written between single quotes. -/
  | string (text : String)
  /-- A number or a boolean, written as it is. -/
  | raw (text : String)
  /-- Written as the argument of `BigInt`. -/
  | bigInt (text : String)
deriving DecidableEq, Repr, Inhabited

inductive Validator
  | string
  | int
  | number
  | boolean
  /-- A date; with coercion also what a date can be made from. -/
  | date (coerce : Bool)
  | bigInt
  | unknown
  /-- An instance of a class. -/
  | instanceOf (className : String)
  /-- The schema of the entity with a name. -/
  | reference (name : String)
  | array (item : Validator)
  | nullable (base : Validator)
  | withDefault (base : Validator) (literal : Literal)
deriving DecidableEq, Repr, Inhabited

/-- The name under which the schema of an entity is exported. -/
def schemaName (name : String) : String :=
  name ++ "Schema"

def Literal.source : Literal → String
  | string text => "'" ++ text ++ "'"
  | raw text => text
  | bigInt text => "BigInt(" ++ text ++ ")"

namespace Validator

def source : Validator → String
  | string => "z.string()"
  | int => "z.number().int()"
  | number => "z.number()"
  | boolean => "z.boolean()"
  | date true => "z.coerce.date()"
  | date false => "z.date()"
  | bigInt => "z.bigint()"
  | unknown => "z.unknown()"
  | instanceOf className => "z.instanceof(" ++ className ++ ")"
  | reference name => schemaName name
  | array item => "z.array(" ++ item.source ++ ")"
  | nullable base => base.source ++ ".nullable()"
  | withDefault base literal => base.source ++ ".default(" ++ literal.source ++ ")"

/-- The names of the entities that a validator refers to, at most one. -/
def references : Validator → List String
  | reference name => [name]
  | array inner | nullable inner | withDefault inner _ => inner.references
  | _ => []

end Validator

end PrismaZod
