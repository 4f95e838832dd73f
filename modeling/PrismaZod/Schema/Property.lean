import PrismaZod.Schema.Declaration
import PrismaZod.Schema.Default

/-!
# Fields as properties

A field becomes a property of the schema of its model, unless it links to
another model or has a type without a validator.  A list is wrapped first, then
an optional field, then the default.
-/

namespace PrismaZod

/-- Why a field has no property. -/
inductive Drop
  /-- It belongs to the relation with this name. -/
  | relation (name : String)
  /-- Its type is neither a scalar type nor that of an enumeration. -/
  | unsupported (type : String)
deriving DecidableEq, Repr, Inhabited

def Drop.message : Drop → String
  | relation name => "relation field (" ++ name ++ ")"
  | unsupported type => "unsupported type " ++ type

/-- A property and, if the field has a default that is not part of it, why. -/
structure Emitted where
  property : Property
  omission : Option Omission
deriving DecidableEq, Repr, Inhabited

namespace Field

def baseValidator (field : Field) (coerceDate : Bool) : Except Drop Validator :=
  if field.kind = .enumeration then .ok (.reference field.type)
  else
    match scalarValidator? field.type coerceDate with
    | some validator => .ok validator
    | none => .error (.unsupported field.type)

def wrap (field : Field) (base : Validator) : Validator :=
  let listed := if field.isList then .array base else base
  if field.isRequired then listed else .nullable listed

/-- The default that counts: one that is given and flagged. -/
def default? (field : Field) : Option Json :=
  if field.hasDefault then field.default else none

/-- The property of a field. -/
def emit (field : Field) (coerceDate : Bool) : Except Drop Emitted :=
  match field.relation? with
  | some name => .error (.relation name)
  | none =>
      match field.baseValidator coerceDate with
      | .error reason => .error reason
      | .ok base =>
          let wrapped := field.wrap base
          match field.default?.map (Literal.ofDefault field.type) with
          | none => .ok ⟨⟨field.name, wrapped⟩, none⟩
          | some (.ok literal) => .ok ⟨⟨field.name, .withDefault wrapped literal⟩, none⟩
          | some (.error omission) => .ok ⟨⟨field.name, wrapped⟩, some omission⟩

end Field

end PrismaZod
