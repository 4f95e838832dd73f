import PrismaZod.Proofs.Schema.Accounting
import PrismaZod.Proofs.Schema.References

/-!
# Occurrences of enumerations

A model refers to the types of its fields that are enumerations and link to no
other model: to each of them once, in the order in which they first occur.
-/

namespace PrismaZod

/-- The names are those of a list, each once, in the order in which they first
occur there. -/
structure FirstOccurrences (all names : List String) : Prop where
  mem : ∀ name, name ∈ names ↔ name ∈ all
  nodup : names.Nodup
  ordered : names.Pairwise fun first second => all.idxOf first < all.idxOf second

theorem ordered_distinct (all : List String) :
    (distinct all).Pairwise fun first second => all.idxOf first < all.idxOf second := by
  induction all with
  | nil => exact .nil
  | cons head all ih =>
      -- Behind the head are other names only, and each is one place further on.
      have behind {name : String} (other : name ≠ head) :
          (head :: all).idxOf name = all.idxOf name + 1 := by
        rw [List.idxOf_cons, beq_false_of_ne (Ne.symm other), cond_false]
      rw [distinct, List.pairwise_cons]
      constructor
      · intro name among
        have other : name ≠ head := by simpa using (List.mem_filter.mp among).2
        rw [List.idxOf_cons_self, behind other]
        exact Nat.succ_pos _
      · rw [List.pairwise_filter]
        refine ih.imp fun {first second} ordered firstOther secondOther => ?_
        rw [behind (by simpa using firstOther), behind (by simpa using secondOther)]
        exact Nat.succ_lt_succ ordered

theorem firstOccurrences_distinct (all : List String) : FirstOccurrences all (distinct all) where
  mem := fun _ => mem_distinct
  nodup := (ordered_distinct all).imp fun {_ _} ordered equal => by simp [equal] at ordered
  ordered := ordered_distinct all

namespace Field

/-- The type of the field is an enumeration, and the field has no relation, or one
with an empty name. -/
def namesEnumeration (field : Field) : Bool :=
  field.kind == .enumeration && field.relationName.all (· == "")

theorem namesEnumeration_iff {field : Field} :
    field.namesEnumeration = true ↔ field.kind = .enumeration ∧ field.relation? = none := by
  simp [namesEnumeration, relation?, Option.filter_eq_none_iff, Option.all_eq_true]

theorem exists_property {field : Field} (emitted : field.IsEmitted) (coerceDate : Bool) :
    ∃ property, field.property? coerceDate = some property := by
  have outcome := field.outcome coerceDate
  generalize field.leftOut? coerceDate = leftOut at outcome
  cases has : field.property? coerceDate with
  | some property => exact ⟨property, rfl⟩
  | none =>
      rw [has] at outcome
      cases outcome with
      | dropped dropped => exact (dropped.not_isEmitted emitted).elim

/-- A field that names an enumeration always has a property, and that refers to the
enumeration alone; the properties of other fields refer to nothing. -/
theorem references_property? (field : Field) (coerceDate : Bool) :
    (field.property? coerceDate).toList.flatMap (·.validator.references) =
      if field.namesEnumeration then [field.type] else [] := by
  cases has : field.property? coerceDate with
  | some property =>
      obtain ⟨noRelation, references⟩ := references_property has
      simp [namesEnumeration_iff, noRelation, references]
  | none =>
      have notNamed : ¬(field.namesEnumeration = true) := by
        intro named
        obtain ⟨enumeration, noRelation⟩ := namesEnumeration_iff.mp named
        obtain ⟨property, isProperty⟩ :=
          exists_property ⟨noRelation, .inl enumeration⟩ coerceDate
        rw [has] at isProperty
        cases isProperty
      rw [if_neg notNamed]
      rfl

end Field

namespace Model

/-- The enumerations that the fields of a model name, field by field. -/
def enumerationTypes (model : Model) : List String :=
  (model.fields.filter (·.namesEnumeration)).map (·.type)

theorem flatMap_references (model : Model) (coerceDate : Bool) :
    (model.fields.filterMap (·.property? coerceDate)).flatMap (·.validator.references) =
      model.enumerationTypes := by
  rw [enumerationTypes]
  induction model.fields with
  | nil => rfl
  | cons field fields ih =>
      rw [← toList_append_filterMap, List.flatMap_append, field.references_property?, ih]
      cases named : field.namesEnumeration <;> simp [named]

/-- Whether dates are coerced, and however the types are wrapped, a model refers to
the enumerations that its fields name. -/
theorem references_declaration (model : Model) (coerceDate : Bool) :
    (model.declaration coerceDate).references = distinct model.enumerationTypes := by
  rw [← model.flatMap_references coerceDate]
  rfl

end Model

end PrismaZod
