import PrismaZod.Schema.Property

/-!
# Schemas of models and enumerations

Each entity has one declaration.  What a field of a model loses on the way, its
place in the schema or its default, is told in a diagnostic.
-/

namespace PrismaZod

/-- What is left out of a schema. -/
inductive LeftOut
  | field (reason : Drop)
  | default (reason : Omission)
deriving DecidableEq, Repr, Inhabited

/-- Something that the schema of a model leaves out of a field. -/
structure Diagnostic where
  model : String
  field : String
  leftOut : LeftOut
deriving DecidableEq, Repr, Inhabited

def Diagnostic.message (diagnostic : Diagnostic) : String :=
  let place := diagnostic.model ++ "." ++ diagnostic.field ++ ": "
  match diagnostic.leftOut with
  | .field reason => place ++ "dropped, " ++ reason.message
  | .default reason => place ++ reason.message ++ " not inlined"

namespace Field

/-- The property of a field, if it has one. -/
def property? (field : Field) (coerceDate : Bool) : Option Property :=
  match field.emit coerceDate with
  | .ok emitted => some emitted.property
  | .error _ => none

/-- What is left out of a field. -/
def leftOut? (field : Field) (coerceDate : Bool) : Option LeftOut :=
  match field.emit coerceDate with
  | .ok emitted => emitted.omission.map .default
  | .error reason => some (.field reason)

end Field

namespace Model

def declaration (model : Model) (coerceDate : Bool) : Declaration :=
  ⟨model.name, .object (model.fields.filterMap (·.property? coerceDate))⟩

/-- What is left out of a model, field by field. -/
def diagnostics (model : Model) (coerceDate : Bool) : List Diagnostic :=
  model.fields.filterMap fun field =>
    (field.leftOut? coerceDate).map (⟨model.name, field.name, ·⟩)

end Model

def Enumeration.declaration (enumeration : Enumeration) : Declaration :=
  ⟨enumeration.name, .enumeration (enumeration.values.map (·.name))⟩

end PrismaZod
