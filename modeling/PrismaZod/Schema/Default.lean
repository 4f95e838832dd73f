import PrismaZod.Datamodel.Basic
import PrismaZod.Schema.Scalar

/-!
# Defaults as literals

A default that the schema gives as a literal is inlined.  One that is computed
when a row is made, or that has no literal form, is left out.
-/

namespace PrismaZod

/-- Why a default is left out. -/
inductive Omission
  /-- A generator with this name computes it. -/
  | generated (name : String)
  | noLiteral
deriving DecidableEq, Repr, Inhabited

def Omission.message : Omission → String
  | generated name => "generated default " ++ name ++ "()"
  | noLiteral => "default has no literal form"

/-- The name of the generator that a value calls. An object calls one if it has
a name, which is empty if it is no string. -/
def Json.generator? : Json → Option String
  | .object members =>
      (Table.find? "name" members).map fun
        | .string name => name
        | _ => ""
  | _ => none

namespace Literal

/-- A value of a big integer, which documents give as a string. -/
def ofBigInt : Json → Except Omission Literal
  | .string digits => .ok (.bigInt digits)
  | .number value => .ok (.bigInt value.text)
  | _ => .error .noLiteral

def ofValue : Json → Except Omission Literal
  | .string value => .ok (.string value)
  | .number value => .ok (.raw value.text)
  | .boolean true => .ok (.raw "true")
  | .boolean false => .ok (.raw "false")
  | _ => .error .noLiteral

/-- The literal of a default for a field of a type. -/
def ofDefault (type : String) (value : Json) : Except Omission Literal :=
  match value.generator? with
  | some name => .error (.generated name)
  | none => if type = Scalar.bigInt.name then ofBigInt value else ofValue value

end Literal

end PrismaZod
