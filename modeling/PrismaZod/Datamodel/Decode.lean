import PrismaZod.Datamodel.Basic
import PrismaZod.Json.Record

/-!
# Datamodels in JSON

The fields of each record, in the order in which they are declared, with the
keys they have in JSON.
-/

namespace PrismaZod

open Json

/-- A kind is a name, or an object with this name as its only key and nothing
under it. -/
def FieldKind.decode : Decoder FieldKind
  | .string name => .ok (ofName name)
  | .object [(name, value)] =>
      match value with
      | .null => .ok (ofName name)
      | other => .error (.invalidType other.found .unit)
  | .object _ => .error .notSingleKey
  | other => .error (.invalidType other.found .kind)

/-- A value with no default is read as it stands, and null as no value. -/
def asValue : Decoder (Option Json)
  | .null => .ok none
  | other => .ok (some other)

namespace Field

def recordType : RecordType Field where
  name := "Field"
  members := [
    .needed "name" asString fun value field => { field with name := value },
    .needed "kind" FieldKind.decode fun value field => { field with kind := value },
    .needed "type" asString fun value field => { field with type := value },
    .optional "isList" asBoolean fun value field => { field with isList := value },
    .optional "isRequired" asBoolean fun value field => { field with isRequired := value },
    .optional "hasDefaultValue" asBoolean fun value field => { field with hasDefault := value },
    .optional "default" asValue fun value field => { field with default := value },
    .optional "relationName" (asOption asString)
      fun value field => { field with relationName := value },
    .optional "documentation" (asOption asString)
      fun value field => { field with documentation := value }]
  blank := {
    name := ""
    kind := .unsupported
    type := ""
    isList := false
    isRequired := false
    hasDefault := false
    default := none
    relationName := none
    documentation := none }

def decode : Decoder Field := recordType.decode

end Field

namespace EnumValue

def recordType : RecordType EnumValue where
  name := "EnumValue"
  members := [
    .needed "name" asString fun value entry => { entry with name := value },
    .optional "dbName" (asOption asString) fun value entry => { entry with dbName := value }]
  blank := ⟨"", none⟩

def decode : Decoder EnumValue := recordType.decode

end EnumValue

namespace Enumeration

def recordType : RecordType Enumeration where
  name := "DatamodelEnum"
  members := [
    .needed "name" asString fun value enumeration => { enumeration with name := value },
    .optional "values" (asList EnumValue.decode)
      fun value enumeration => { enumeration with values := value },
    .optional "dbName" (asOption asString)
      fun value enumeration => { enumeration with dbName := value },
    .optional "documentation" (asOption asString)
      fun value enumeration => { enumeration with documentation := value }]
  blank := ⟨"", [], none, none⟩

def decode : Decoder Enumeration := recordType.decode

end Enumeration

namespace Model

def recordType : RecordType Model where
  name := "Model"
  members := [
    .needed "name" asString fun value model => { model with name := value },
    .optional "dbName" (asOption asString) fun value model => { model with dbName := value },
    .optional "fields" (asList Field.decode) fun value model => { model with fields := value },
    .optional "documentation" (asOption asString)
      fun value model => { model with documentation := value }]
  blank := ⟨"", none, [], none⟩

def decode : Decoder Model := recordType.decode

end Model

namespace Datamodel

def recordType : RecordType Datamodel where
  name := "Datamodel"
  members := [
    .optional "models" (asList Model.decode)
      fun value datamodel => { datamodel with models := value },
    .optional "enums" (asList Enumeration.decode)
      fun value datamodel => { datamodel with enumerations := value }]
  blank := .empty

def decode : Decoder Datamodel := recordType.decode

end Datamodel

end PrismaZod
