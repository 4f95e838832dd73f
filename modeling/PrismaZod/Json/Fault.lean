import PrismaZod.Json.Basic
import PrismaZod.Text.Quoted

/-!
# What can be wrong with a JSON value

A value that does not have the shape asked for is at fault for one of these
reasons.  The message of a fault names what was found and what was expected.
-/

namespace PrismaZod.Json

/-- What a value is, as far as messages tell. -/
inductive Found
  | null
  | boolean (value : Bool)
  | number (value : Number)
  | string (value : String)
  | sequence
  | map
deriving DecidableEq, Repr, Inhabited

def found : Json → Found
  | null => .null
  | boolean value => .boolean value
  | number value => .number value
  | string value => .string value
  | array _ => .sequence
  | object _ => .map

/-- What a value ought to be. -/
inductive Shape
  | string
  | boolean
  | sequence
  | map
  | unit
  /-- A field kind: its name, alone or as the key of an object. -/
  | kind
  | record (name : String)
deriving DecidableEq, Repr, Inhabited

/-- Why a value is not what was asked for. -/
inductive Fault
  | invalidType (found : Found) (expected : Shape)
  | missingField (key : String)
  | duplicateField (key : String)
  /-- A record written as an array ends before a field that it needs. -/
  | tooShort (length : Nat) (record : String) (size : Nat)
  /-- A record written as an array has more items than fields. -/
  | tooLong (length : Nat)
  /-- Something follows after all that was asked for. -/
  | trailing
  | notSingleKey
  | notOptionValue
deriving DecidableEq, Repr, Inhabited

def Found.description : Found → String
  | null => "null"
  | boolean true => "boolean `true`"
  | boolean false => "boolean `false`"
  | number (.integer value) => "integer `" ++ (Number.integer value).text ++ "`"
  | number (.float value) => "floating point `" ++ (Number.float value).text ++ "`"
  | string value => "string " ++ Text.quoted value
  | sequence => "sequence"
  | map => "map"

def Shape.description : Shape → String
  | string => "a string"
  | boolean => "a boolean"
  | sequence => "a sequence"
  | map => "a map"
  | unit => "unit"
  | kind => "string or map"
  | record name => "struct " ++ name

def elementCount (size : Nat) : String :=
  size.repr ++ (if size = 1 then " element" else " elements")

def Fault.message : Fault → String
  | invalidType found expected =>
      "invalid type: " ++ found.description ++ ", expected " ++ expected.description
  | missingField key => "missing field `" ++ key ++ "`"
  | duplicateField key => "duplicate field `" ++ key ++ "`"
  | tooShort length record size =>
      "invalid length " ++ length.repr ++ ", expected struct " ++ record ++
        " with " ++ elementCount size
  | tooLong length =>
      "invalid length " ++ length.repr ++ ", expected fewer elements in array"
  | trailing => "trailing characters"
  | notSingleKey => "invalid value: map, expected map with a single key"
  | notOptionValue => "data did not match any variant of untagged enum ConfigValue"

end PrismaZod.Json
