import PrismaZod.Json.Fault

/-!
# Records in JSON

A record is written as an object, or as an array of its fields in the order in
which they are declared.  In an object the fields are read in the order of the
keys, other keys are passed over, and only then is a required field missed.  In
an array the fields are read in order.  Either way the first fault counts, and
a field that is not required keeps its default when it is absent.
-/

namespace PrismaZod.Json

abbrev Decoder (α : Type) := Json → Except Fault α

def asString : Decoder String
  | string value => .ok value
  | other => .error (.invalidType other.found .string)

def asBoolean : Decoder Bool
  | boolean value => .ok value
  | other => .error (.invalidType other.found .boolean)

/-- Read something that may be null. -/
def asOption {α : Type} (decode : Decoder α) : Decoder (Option α)
  | null => .ok none
  | other => (decode other).map some

def asList {α : Type} (decode : Decoder α) : Decoder (List α)
  | array items => items.mapM decode
  | other => .error (.invalidType other.found .sequence)

/-- A field of a record: its key, whether it has to be there, and how its value
is entered into a record. -/
structure Member (σ : Type) where
  key : String
  required : Bool
  enter : Json → σ → Except Fault σ

namespace Member

variable {σ α : Type}

def needed (key : String) (decode : Decoder α) (put : α → σ → σ) : Member σ :=
  ⟨key, true, fun value record => (decode value).map (put · record)⟩

/-- A field that has a default. -/
def optional (key : String) (decode : Decoder α) (put : α → σ → σ) : Member σ :=
  ⟨key, false, fun value record => (decode value).map (put · record)⟩

end Member

/-- The description of a record: its name in messages, its fields in order, and
the record in which no field has been read. -/
structure RecordType (σ : Type) where
  name : String
  members : List (Member σ)
  blank : σ

namespace RecordType

variable {σ : Type}

/-- Read an entry of an object, if its key is that of a field. -/
def enterEntry (type : RecordType σ) (record : σ) (entry : String × Json) :
    Except Fault σ :=
  match type.members.find? (·.key == entry.1) with
  | some member => member.enter entry.2 record
  | none => .ok record

/-- The first required field whose key is not there. -/
def missing? (type : RecordType σ) (entries : Table Json) : Option (Member σ) :=
  type.members.find? fun member => member.required && (entries.find? member.key).isNone

def ofEntries (type : RecordType σ) (entries : Table Json) : Except Fault σ :=
  match entries.foldlM type.enterEntry type.blank with
  | .error fault => .error fault
  | .ok record =>
      match type.missing? entries with
      | some member => .error (.missingField member.key)
      | none => .ok record

/-- Read the fields that are left from the items that are left. -/
def enterItems (type : RecordType σ) (length : Nat) :
    List (Member σ) → List Json → Nat → σ → Except Fault σ
  | [], [], _, record => .ok record
  | [], _ :: _, _, _ => .error (.tooLong length)
  | member :: members, [], index, record =>
      if member.required then .error (.tooShort index type.name type.members.length)
      else enterItems type length members [] (index + 1) record
  | member :: members, item :: items, index, record =>
      match member.enter item record with
      | .error fault => .error fault
      | .ok next => enterItems type length members items (index + 1) next

def ofItems (type : RecordType σ) (items : List Json) : Except Fault σ :=
  type.enterItems items.length type.members items 0 type.blank

def decode (type : RecordType σ) : Decoder σ
  | object entries => type.ofEntries entries
  | array items => type.ofItems items
  | other => .error (.invalidType other.found (.record type.name))

end RecordType

end PrismaZod.Json
