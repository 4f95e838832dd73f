import PrismaZod.Proofs.Schema.Accounting

/-!
# Coerced dates

Whether dates are coerced shows in the validators of dates and nowhere else.  A
field has a property with and without coercion or in neither case, with the same
default, and the same is left out of it.
-/

namespace PrismaZod

namespace Validator

/-- The validator without coercion: each date that is coerced is one that is
not. -/
def strict : Validator → Validator
  | date true => date false
  | array item => array item.strict
  | nullable base => nullable base.strict
  | withDefault base literal => withDefault base.strict literal
  | other => other

/-- Some date in the validator is coerced. -/
def Coerces : Validator → Prop
  | date coerce => coerce = true
  | array inner | nullable inner | withDefault inner _ => inner.Coerces
  | _ => False

theorem not_coerces_strict (validator : Validator) : ¬validator.strict.Coerces := by
  induction validator with
  | date coerce => cases coerce <;> simp [strict, Coerces]
  | array item ih => exact ih
  | nullable base ih => exact ih
  | withDefault base literal ih => exact ih
  | _ => exact id

@[simp]
theorem references_strict (validator : Validator) :
    validator.strict.references = validator.references := by
  induction validator with
  | date coerce => cases coerce <;> rfl
  | array item ih => exact ih
  | nullable base ih => exact ih
  | withDefault base literal ih => exact ih
  | _ => rfl

end Validator

def Property.strict (property : Property) : Property :=
  { property with validator := property.validator.strict }

def Emitted.strict (emitted : Emitted) : Emitted :=
  { emitted with property := emitted.property.strict }

def Body.strict : Body → Body
  | enumeration values => enumeration values
  | object properties => object (properties.map Property.strict)

/-- The declaration without coercion. -/
def Declaration.strict (declaration : Declaration) : Declaration :=
  { declaration with body := declaration.body.strict }

@[simp]
theorem Declaration.references_strict (declaration : Declaration) :
    declaration.strict.references = declaration.references := by
  obtain ⟨name, body⟩ := declaration
  cases body with
  | enumeration values => rfl
  | object properties =>
      simp [references, strict, Body.strict, Property.strict, List.flatMap_map]

@[simp]
theorem Scalar.strict_validator (scalar : Scalar) :
    (scalar.validator true).strict = scalar.validator false := by
  cases scalar <;> rfl

namespace Field

variable (field : Field)

theorem strict_wrap (base : Validator) : (field.wrap base).strict = field.wrap base.strict := by
  unfold wrap
  cases field.isList <;> cases field.isRequired <;> rfl

theorem baseValidator_strict :
    field.baseValidator false = (field.baseValidator true).map Validator.strict := by
  unfold baseValidator scalarValidator?
  split
  · rfl
  · cases Scalar.ofName? field.type with
    | none => rfl
    | some scalar => simp [Except.map]

/-- What a field is emitted as without coercion is what it is emitted as with it,
made strict. -/
theorem emit_strict : field.emit false = (field.emit true).map Emitted.strict := by
  unfold emit
  rw [baseValidator_strict]
  cases field.relation? with
  | some name => rfl
  | none =>
      cases field.baseValidator true with
      | error reason => rfl
      | ok base =>
          dsimp only [Except.map]
          rw [← strict_wrap]
          cases field.default?.map (Literal.ofDefault field.type) with
          | none => rfl
          | some written =>
              cases written with
              | ok literal => rfl
              | error omission => rfl

theorem property?_strict :
    field.property? false = (field.property? true).map Property.strict := by
  unfold property?
  rw [emit_strict]
  cases field.emit true <;> rfl

theorem leftOut?_strict : field.leftOut? false = field.leftOut? true := by
  unfold leftOut?
  rw [emit_strict]
  cases field.emit true <;> rfl

end Field

namespace Model

variable (model : Model)

theorem declaration_strict : model.declaration false = (model.declaration true).strict := by
  have properties : model.fields.filterMap (·.property? false) =
      (model.fields.filterMap (·.property? true)).map Property.strict := by
    simp only [Field.property?_strict, List.map_filterMap]
  simp only [declaration, Declaration.strict, Body.strict, properties]

theorem diagnostics_congr (first second : Bool) :
    model.diagnostics first = model.diagnostics second := by
  have strict : model.diagnostics false = model.diagnostics true := by
    simp only [diagnostics, Field.leftOut?_strict]
  cases first <;> cases second <;> simp only [strict]

/-- Without coercion no date in the declaration of a model is coerced. -/
theorem not_coerces_of_mem_properties {property : Property}
    (among : property ∈ (model.declaration false).properties) :
    ¬property.validator.Coerces := by
  rw [declaration_strict] at among
  obtain ⟨other, -, rfl⟩ := List.mem_map.mp among
  exact other.validator.not_coerces_strict

end Model

end PrismaZod
