import PrismaZod.Schema.Validator

/-!
# Declarations

A declaration exports the schema of an entity and the type inferred from it.
-/

namespace PrismaZod

/-- A property of an object schema. -/
structure Property where
  name : String
  validator : Validator
deriving DecidableEq, Repr, Inhabited

/-- What is declared, in the order of the schema. -/
inductive Body
  | enumeration (values : List String)
  | object (properties : List Property)
deriving DecidableEq, Repr, Inhabited

structure Declaration where
  name : String
  body : Body
deriving DecidableEq, Repr, Inhabited

/-- Each name once, where it first occurs. -/
def distinct : List String → List String
  | [] => []
  | name :: rest => name :: (distinct rest).filter (· ≠ name)

/-- The line of a property in an object schema. -/
def Property.source (property : Property) : String :=
  "  " ++ property.name ++ ": " ++ property.validator.source ++ ",\n"

def Body.source : Body → String
  | enumeration values =>
      "z.enum([" ++ ", ".intercalate (values.map fun value => "'" ++ value ++ "'") ++ "])"
  | object properties =>
      "z.object(\x7b\n" ++ String.join (properties.map Property.source) ++ "\x7d)"

namespace Declaration

def ident (declaration : Declaration) : String :=
  schemaName declaration.name

/-- The source text of a declaration, without a line break at its end. -/
def source (declaration : Declaration) : String :=
  "export const " ++ declaration.ident ++ " = " ++ declaration.body.source ++ ";\n" ++
    "export type " ++ declaration.name ++ " = z.infer<typeof " ++ declaration.ident ++ ">;"

/-- The entities that the properties refer to, each once. -/
def references (declaration : Declaration) : List String :=
  match declaration.body with
  | .enumeration _ => []
  | .object properties => distinct (properties.flatMap (·.validator.references))

end Declaration

def zodImport : String := "import \x7b z \x7d from 'zod';"

def schemaImport (name : String) : String :=
  "import \x7b " ++ schemaName name ++ " \x7d from './" ++ name ++ "';"

/-- The line that exports all of the file of an entity. -/
def fileExport (name : String) : String :=
  "export * from './" ++ name ++ "';"

end PrismaZod
