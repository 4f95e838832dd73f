import PrismaZod.Proofs.Datamodel.Grammar
import PrismaZod.Proofs.Json.Leeway

/-!
# What datamodels are read without

Keys that are no fields of a record, and fields that hold their defaults, can be
added to the records of a document and left out of them, at any depth and in any
number, without a change in the datamodel that is read or in the fault that is
found.
-/

namespace PrismaZod

open Json

namespace Field

def leeways : List Leeway := [
  .required "name",
  .required "kind",
  .required "type",
  .defaulted "isList" (boolean false),
  .defaulted "isRequired" (boolean false),
  .defaulted "hasDefaultValue" (boolean false),
  .defaulted "default" null,
  .defaulted "relationName" null,
  .defaulted "documentation" null]

theorem readsAlike : ReadsAlike decode (AlikeRecords leeways) := by
  refine fits.readsAlike ?_
  refine .cons (Member.tolerates_needed (readsAlike_eq _)) <|
    .cons (Member.tolerates_needed (readsAlike_eq _)) <|
    .cons (Member.tolerates_needed (readsAlike_eq _)) <|
    .cons (Member.tolerates_optional (readsAlike_eq _) rfl ?_) <|
    .cons (Member.tolerates_optional (readsAlike_eq _) rfl ?_) <|
    .cons (Member.tolerates_optional (readsAlike_eq _) rfl ?_) <|
    .cons (Member.tolerates_optional (readsAlike_eq _) rfl ?_) <|
    .cons (Member.tolerates_optional (readsAlike_eq _) rfl ?_) <|
    .cons (Member.tolerates_optional (readsAlike_eq _) rfl ?_) .nil <;>
  · intro table absent
    simp [ofTable, absent]

end Field

namespace EnumValue

def leeways : List Leeway := [.required "name", .defaulted "dbName" null]

theorem readsAlike : ReadsAlike decode (AlikeRecords leeways) := by
  refine fits.readsAlike ?_
  refine .cons (Member.tolerates_needed (readsAlike_eq _)) <|
    .cons (Member.tolerates_optional (readsAlike_eq _) rfl ?_) .nil
  intro table absent
  simp [ofTable, absent]

end EnumValue

namespace Enumeration

def leeways : List Leeway := [
  .required "name",
  .list "values" (AlikeRecords EnumValue.leeways),
  .defaulted "dbName" null,
  .defaulted "documentation" null]

theorem readsAlike : ReadsAlike decode (AlikeRecords leeways) := by
  refine fits.readsAlike ?_
  refine .cons (Member.tolerates_needed (readsAlike_eq _)) <|
    .cons (Member.tolerates_optional (readsAlike_asList EnumValue.readsAlike) rfl ?_) <|
    .cons (Member.tolerates_optional (readsAlike_eq _) rfl ?_) <|
    .cons (Member.tolerates_optional (readsAlike_eq _) rfl ?_) .nil <;>
  · intro table absent
    simp [ofTable, absent]

end Enumeration

namespace Model

def leeways : List Leeway := [
  .required "name",
  .defaulted "dbName" null,
  .list "fields" (AlikeRecords Field.leeways),
  .defaulted "documentation" null]

theorem readsAlike : ReadsAlike decode (AlikeRecords leeways) := by
  refine fits.readsAlike ?_
  refine .cons (Member.tolerates_needed (readsAlike_eq _)) <|
    .cons (Member.tolerates_optional (readsAlike_eq _) rfl ?_) <|
    .cons (Member.tolerates_optional (readsAlike_asList Field.readsAlike) rfl ?_) <|
    .cons (Member.tolerates_optional (readsAlike_eq _) rfl ?_) .nil <;>
  · intro table absent
    simp [ofTable, absent]

end Model

namespace Datamodel

def leeways : List Leeway := [
  .list "models" (AlikeRecords Model.leeways),
  .list "enums" (AlikeRecords Enumeration.leeways)]

theorem readsAlike : ReadsAlike decode (AlikeRecords leeways) := by
  refine fits.readsAlike ?_
  refine .cons (Member.tolerates_optional (readsAlike_asList Model.readsAlike) rfl ?_) <|
    .cons (Member.tolerates_optional (readsAlike_asList Enumeration.readsAlike) rfl ?_) .nil <;>
  · intro table absent
    simp [ofTable, absent]

/-- A table that is a document of its own, and not one that holds another. -/
structure IsBare (limit : Nat) (members : Table Json) : Prop where
  within : (Json.object members).Within limit
  noDmmf : members.find? "dmmf" = none
  noDatamodel : members.find? "datamodel" = none

/-- Documents that differ only in keys that are no fields and in fields that hold
their defaults, at any depth, give the same datamodel or are at the same fault. -/
theorem ofDocument_alike {firstLimit secondLimit : Nat} {first second : Table Json}
    (firstBare : IsBare firstLimit first) (secondBare : IsBare secondLimit second)
    (alike : AlikeRecords leeways (.object first) (.object second)) :
    ofDocument (.object first) = ofDocument (.object second) := by
  rw [ofDocument_bare firstBare.noDmmf firstBare.noDatamodel,
    ofDocument_bare secondBare.noDmmf secondBare.noDatamodel,
    readsAlike firstBare.within secondBare.within alike]

/-- An enumeration and a model, with keys that are no fields and with defaults, and
without; and the same around a field that is at fault. -/
theorem ofDocument_alike_role :
    let admin : Json :=
      .object [("@map", string "admin"), ("dbName", null), ("name", string "ADMIN")]
    let bareAdmin : Json := .object [("name", string "ADMIN")]
    let id : Json := .object [("default", null), ("isId", boolean true),
      ("isList", boolean false), ("kind", string "scalar"), ("name", string "id"),
      ("type", string "Int")]
    let bareId : Json := .object [("isRequired", boolean false), ("kind", string "scalar"),
      ("name", string "id"), ("type", string "Int")]
    let broken : Json := .object [("default", null), ("isId", array []), ("isList", null),
      ("isUnique", null), ("kind", boolean true)]
    let bareBroken : Json := .object [("isList", null), ("kind", boolean true)]
    let first (field : Json) : Table Json := [
      ("enums", array [.object [("name", string "Role"), ("values", array [admin])]]),
      ("models", array [array [string "User", null, array [field]]]),
      ("types", array [])]
    let second (field : Json) : Table Json := [
      ("enums", array [.object [("documentation", null), ("name", string "Role"),
        ("values", array [bareAdmin])]]),
      ("models", array [array [string "User", null, array [field]]])]
    ((∀ field ∈ [id, broken], IsBare 7 (first field)) ∧
      (∀ field ∈ [bareId, bareBroken], IsBare 7 (second field)) ∧
      AlikeRecords leeways (.object (first id)) (.object (second bareId)) ∧
      AlikeRecords leeways (.object (first broken)) (.object (second bareBroken))) ∧
    ofDocument (.object (first id)) = ofDocument (.object (second bareId)) ∧
    ofDocument (.object (second bareId)) = .ok {
      models := [⟨"User", none, [(Field.scalar "id" "Int").optional], none⟩]
      enumerations := [.ofNames "Role" ["ADMIN"]] } ∧
    ofDocument (.object (first broken)) = ofDocument (.object (second bareBroken)) ∧
    ofDocument (.object (second bareBroken)) =
      .error (.invalid (.invalidType .null .boolean)) := by
  intro admin bareAdmin id bareId broken bareBroken first second
  have values : AlikeRecords EnumValue.leeways admin bareAdmin := by
    refine .objects ?_
    simp only [AlikeMembers, EnumValue.leeways, List.forall_mem_cons]
    exact ⟨.both rfl, .leftOut rfl, nofun⟩
  have fields : AlikeRecords Field.leeways id bareId := by
    refine .objects ?_
    simp only [AlikeMembers, Field.leeways, List.forall_mem_cons]
    exact ⟨.both rfl, .both rfl, .both rfl, .leftOut rfl, .added rfl, .neither, .leftOut rfl,
      .neither, .neither, nofun⟩
  have brokenFields : AlikeRecords Field.leeways broken bareBroken := by
    refine .objects ?_
    simp only [AlikeMembers, Field.leeways, List.forall_mem_cons]
    exact ⟨.neither, .both rfl, .neither, .both rfl, .neither, .neither, .leftOut rfl,
      .neither, .neither, nofun⟩
  have documents {field other : Json} (alike : AlikeRecords Field.leeways field other) :
      AlikeRecords leeways (.object (first field)) (.object (second other)) := by
    have enumerations : AlikeRecords Enumeration.leeways
        (.object [("name", string "Role"), ("values", array [admin])])
        (.object [("documentation", null), ("name", string "Role"),
          ("values", array [bareAdmin])]) := by
      refine .objects ?_
      simp only [AlikeMembers, Enumeration.leeways, List.forall_mem_cons]
      exact ⟨.both rfl, .both (.lists (.cons values .nil)), .neither, .added rfl, nofun⟩
    have models : AlikeRecords Model.leeways (array [string "User", null, array [field]])
        (array [string "User", null, array [other]]) :=
      .arrays (.next rfl (.next rfl (.next (.lists (.cons alike .nil)) (.same _ []))))
    refine .objects ?_
    simp only [AlikeMembers, leeways, List.forall_mem_cons]
    exact ⟨.both (.lists (.cons models .nil)), .both (.lists (.cons enumerations .nil)), nofun⟩
  have firstBare : ∀ field ∈ [id, broken], IsBare 7 (first field) := by
    intro field among
    refine ⟨?_, rfl, rfl⟩
    rcases List.mem_pair.mp among with rfl | rfl <;>
      simp [first, admin, id, broken, Within, Table.Sorted, -String.lt_iff_ltb]
  have secondBare : ∀ field ∈ [bareId, bareBroken], IsBare 7 (second field) := by
    intro field among
    refine ⟨?_, rfl, rfl⟩
    rcases List.mem_pair.mp among with rfl | rfl <;>
      simp [second, bareAdmin, bareId, bareBroken, Within, Table.Sorted, -String.lt_iff_ltb]
  refine ⟨⟨firstBare, secondBare, documents fields, documents brokenFields⟩, ?_, rfl, ?_, rfl⟩
  · exact ofDocument_alike (firstBare id (by simp)) (secondBare bareId (by simp))
      (documents fields)
  · exact ofDocument_alike (firstBare broken (by simp)) (secondBare bareBroken (by simp))
      (documents brokenFields)

end Datamodel

end PrismaZod
