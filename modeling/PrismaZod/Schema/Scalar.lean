import PrismaZod.Schema.Validator

/-!
# Scalar types

The scalar types of a Prisma schema that have a validator.
-/

namespace PrismaZod

inductive Scalar
  | string
  | int
  | float
  | boolean
  | dateTime
  | bigInt
  | decimal
  | json
  | bytes
deriving DecidableEq, Repr, Inhabited

namespace Scalar

def all : List Scalar :=
  [string, int, float, boolean, dateTime, bigInt, decimal, json, bytes]

def name : Scalar → String
  | string => "String"
  | int => "Int"
  | float => "Float"
  | boolean => "Boolean"
  | dateTime => "DateTime"
  | bigInt => "BigInt"
  | decimal => "Decimal"
  | json => "Json"
  | bytes => "Bytes"

def ofName? (name : String) : Option Scalar :=
  all.find? (·.name == name)

/-- The validator of a scalar type. A decimal stays a string, so that none of
its digits are lost. -/
def validator (coerceDate : Bool) : Scalar → Validator
  | string => .string
  | int => .int
  | float => .number
  | boolean => .boolean
  | dateTime => .date coerceDate
  | bigInt => .bigInt
  | decimal => .string
  | json => .unknown
  | bytes => .instanceOf "Uint8Array"

end Scalar

/-- The validator of a type name, if it is the name of a scalar type. -/
def scalarValidator? (type : String) (coerceDate : Bool) : Option Validator :=
  (Scalar.ofName? type).map (Scalar.validator coerceDate)

end PrismaZod
