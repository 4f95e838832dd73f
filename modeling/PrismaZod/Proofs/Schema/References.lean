import PrismaZod.Proofs.Schema.Emission

/-!
# References of declarations

A declaration refers to the types of its fields that are enumerations, through
lists, null and defaults, and to nothing else.
-/

namespace PrismaZod

@[simp]
theorem mem_distinct {name : String} {names : List String} :
    name ∈ distinct names ↔ name ∈ names := by
  induction names with
  | nil => simp [distinct]
  | cons head names ih =>
      by_cases atHead : name = head <;> simp [distinct, atHead, ih]

@[simp]
theorem Enumeration.references_declaration (enumeration : Enumeration) :
    enumeration.declaration.references = [] :=
  rfl

@[simp]
theorem Field.references_wrap (field : Field) (base : Validator) :
    (field.wrap base).references = base.references := by
  unfold Field.wrap
  cases field.isList <;> cases field.isRequired <;> rfl

@[simp]
theorem Scalar.references_validator (scalar : Scalar) (coerceDate : Bool) :
    (scalar.validator coerceDate).references = [] := by
  cases scalar <;> rfl

/-- The property of a field refers to its type if that is an enumeration. -/
theorem Field.references_property {field : Field} {coerceDate : Bool} {property : Property}
    (has : field.property? coerceDate = some property) :
    field.relation? = none ∧
      property.validator.references =
        if field.kind = .enumeration then [field.type] else [] := by
  obtain ⟨omission, emits⟩ := Field.property?_eq_some has
  obtain ⟨noRelation, base, found, emission⟩ := Field.emit_eq_ok emits
  refine ⟨noRelation, ?_⟩
  have ofBase : base.references = if field.kind = .enumeration then [field.type] else [] := by
    rcases Field.baseValidator_eq_ok found with
      ⟨enumeration, rfl⟩ | ⟨notEnumeration, scalar, -, rfl⟩
    · simp [enumeration, Validator.references]
    · simp [notEnumeration]
  rcases emission with
      ⟨-, equal⟩ | ⟨value, -, ⟨literal, -, equal⟩ | ⟨omission, -, equal⟩⟩ <;>
    cases equal <;> simpa [Validator.references] using ofBase

/-- What a model refers to is the type of a field that links to no other model. -/
theorem Model.exists_field_of_mem_references {model : Model} {coerceDate : Bool} {name : String}
    (refers : name ∈ (model.declaration coerceDate).references) :
    ∃ field ∈ model.fields, field.relation? = none ∧ field.kind = .enumeration ∧
      field.type = name := by
  obtain ⟨property, among, inside⟩ := List.mem_flatMap.mp (mem_distinct.mp refers)
  obtain ⟨field, isField, has⟩ := List.mem_filterMap.mp among
  obtain ⟨noRelation, references⟩ := Field.references_property has
  rw [references] at inside
  split at inside
  · rename_i enumeration
    exact ⟨field, isField, noRelation, enumeration, (List.mem_singleton.mp inside).symm⟩
  · contradiction

end PrismaZod
