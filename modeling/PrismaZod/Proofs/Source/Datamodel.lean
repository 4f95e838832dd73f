import PrismaZod.Proofs.Decimal.Characters
import PrismaZod.Proofs.Plan.Contents
import PrismaZod.Proofs.Schema.Emission

/-!
# Generated text determines the schema

A datamodel is quotable if the names that it generates are words and no value
or default holds the mark that ends it in the generated text.  The declarations
of a quotable datamodel are legible, and so the file of all declarations
determines them: their names, their values and their properties with the
validators and defaults.
-/

namespace PrismaZod

open Text

/-- The property of the field can be written down as it is. -/
structure Field.Quotable (field : Field) : Prop where
  name_word : IsWord field.name
  type_word : field.kind = .enumeration → IsWord field.type
  default_unquoted : ∀ text, field.default = some (.string text) → Free '\'' text
  default_unclosed : ∀ text, field.type = Scalar.bigInt.name →
    field.default = some (.string text) → Free ')' text

/-- The declarations of the datamodel can be written down as they are. Of fields
that are not emitted nothing is asked. -/
structure Datamodel.Quotable (datamodel : Datamodel) : Prop where
  names : ∀ name ∈ datamodel.entityNames, IsWord name
  values : ∀ enumeration ∈ datamodel.enumerations, ∀ value ∈ enumeration.values,
    Free '\'' value.name
  fields : ∀ model ∈ datamodel.models, ∀ field ∈ model.fields,
    field.IsEmitted → field.Quotable

theorem isRawChar_of_isNumberChar {c : Char} (number : isNumberChar c = true) :
    isRawChar c = true := by
  simp only [isNumberChar, isRawChar, isWordChar, Char.isAlphanum, Bool.or_eq_true,
    beq_iff_eq] at number ⊢
  rcases number with (((digit | point) | rfl) | plus) | minus
  · simp [digit]
  · simp [point]
  · decide
  · simp [plus]
  · simp [minus]

theorem Number.free_text (number : Number) : Free ')' number.text := by
  intro member
  have numeric := number.isNumeric_text _ member
  contradiction

namespace Field.Quotable

variable {field : Field} (quotable : field.Quotable)

include quotable

theorem literal_legible {value : Json} {literal : Literal}
    (given : field.default? = some value)
    (written : Literal.ofDefault field.type value = .ok literal) : literal.Legible := by
  have isDefault : field.default = some value := by
    unfold Field.default? at given
    split at given
    · exact given
    · contradiction
  obtain ⟨-, ⟨isBigInt, written⟩ | ⟨-, written⟩⟩ := Literal.ofDefault_eq_ok written
  · rcases Literal.ofBigInt_eq_ok written with ⟨text, rfl, rfl⟩ | ⟨number, rfl, rfl⟩
    · exact quotable.default_unclosed text isBigInt isDefault
    · exact number.free_text
  · rcases Literal.ofValue_eq_ok written with
      ⟨text, rfl, rfl⟩ | ⟨number, rfl, rfl⟩ | ⟨truth, rfl, rfl⟩
    · exact quotable.default_unquoted text isDefault
    · exact fun c member => isRawChar_of_isNumberChar (number.isNumeric_text c member)
    · cases truth <;> exact List.all_eq_true.mp (by decide)

theorem base_legible {coerceDate : Bool} {base : Validator}
    (found : field.baseValidator coerceDate = .ok base) : base.Legible := by
  rcases Field.baseValidator_eq_ok found with ⟨enumeration, rfl⟩ | ⟨-, scalar, -, rfl⟩
  · exact quotable.type_word enumeration
  · cases scalar <;> simp only [Scalar.validator, Validator.Legible]
    decide

omit quotable in
theorem wrap_legible {base : Validator} (legible : base.Legible) :
    (field.wrap base).Legible := by
  unfold Field.wrap
  cases field.isList <;> cases field.isRequired <;> exact legible

theorem property_legible {coerceDate : Bool} {emitted : Emitted}
    (emits : field.emit coerceDate = .ok emitted) : emitted.property.Legible := by
  obtain ⟨-, base, found, emission⟩ := Field.emit_eq_ok emits
  have wrapped : (field.wrap base).Legible := wrap_legible (quotable.base_legible found)
  rcases emission with ⟨-, rfl⟩ | ⟨value, given, ⟨literal, written, rfl⟩ | ⟨omission, -, rfl⟩⟩
  · exact ⟨quotable.name_word, wrapped⟩
  · exact ⟨quotable.name_word, wrapped, quotable.literal_legible given written⟩
  · exact ⟨quotable.name_word, wrapped⟩

end Field.Quotable

namespace Datamodel

theorem Quotable.declarations_legible {datamodel : Datamodel} (quotable : datamodel.Quotable)
    (coerceDate : Bool) :
    ∀ declaration ∈ datamodel.declarations coerceDate, declaration.Legible := by
  intro declaration member
  have named {name : String} (isName : name ∈ datamodel.entityNames) : IsWord name :=
    quotable.names name isName
  simp only [declarations, List.mem_append, List.mem_map] at member
  rcases member with ⟨enumeration, declared, rfl⟩ | ⟨model, declared, rfl⟩
  · refine ⟨named (List.mem_append_left _ (List.mem_map_of_mem declared)), ?_⟩
    intro value isValue
    obtain ⟨enumValue, among, rfl⟩ := List.mem_map.mp isValue
    exact quotable.values enumeration declared enumValue among
  · refine ⟨named (List.mem_append_right _ (List.mem_map_of_mem declared)), ?_⟩
    intro property isProperty
    obtain ⟨field, among, has⟩ := List.mem_filterMap.mp isProperty
    obtain ⟨omission, emits⟩ := Field.property?_eq_some has
    exact (quotable.fields model declared field among
      (Field.isEmitted_of_emit emits)).property_legible emits

/-- The file of all declarations determines the declarations. -/
theorem Quotable.combinedText_injective {first second : Datamodel} {coerce otherCoerce : Bool}
    (firstQuotable : first.Quotable) (secondQuotable : second.Quotable)
    (equal : first.combinedText coerce = second.combinedText otherCoerce) :
    first.declarations coerce = second.declarations otherCoerce := by
  rw [combinedText_eq, combinedText_eq] at equal
  exact Declaration.blocks_injective (firstQuotable.declarations_legible coerce)
    (secondQuotable.declarations_legible otherCoerce)
    ((String.append_right_inj _).mp equal)

/-- The file of a plan of one file determines the declarations of a quotable
datamodel, and so do the sources of its declarations and their validators. -/
theorem contents_determine_declarations :
    (∀ (first second : Datamodel) (config other : Config),
      first.Quotable → second.Quotable →
      config.multipleFiles = false → other.multipleFiles = false →
      (plan first config).files.map (·.contents) = (plan second other).files.map (·.contents) →
        first.enumerations.map Enumeration.declaration ++
            first.models.map (·.declaration config.coerceDate) =
          second.enumerations.map Enumeration.declaration ++
            second.models.map (·.declaration other.coerceDate)) ∧
    (∀ (datamodel : Datamodel) (coerceDate : Bool), datamodel.Quotable →
      ∀ declaration ∈ datamodel.enumerations.map Enumeration.declaration ++
        datamodel.models.map (·.declaration coerceDate), declaration.Legible) ∧
    (∀ first second : Declaration, first.Legible → second.Legible →
      first.source = second.source → first = second) ∧
    (∀ first second : Validator, first.Legible → second.Legible →
      first.source = second.source → first = second) := by
  refine ⟨?_, fun _ coerceDate quotable => quotable.declarations_legible coerceDate,
    fun _ _ => Declaration.source_injective, fun _ _ => Validator.source_injective⟩
  intro first second config other firstQuotable secondQuotable single otherSingle equal
  apply firstQuotable.combinedText_injective secondQuotable
  simpa [plan, Plan.combined, single, otherSingle] using equal

/-- Fields that are dropped and the coercion of dates do not show in the text
of a datamodel without dates. -/
theorem contents_determine_declarations_roles :
    let role := Enumeration.ofNames "Role" ["ADMIN", "a])"]
    let status := (Field.enumeration "status" "Role").list.withDefault (.string "x, \n])")
    let link := (Field.plain "owner" .object "User").withRelation "Owns"
    let first : Datamodel := ⟨[⟨"User", none, [status], none⟩], [role]⟩
    let second : Datamodel := ⟨[⟨"User", none, [link, status], none⟩], [role]⟩
    let config : Config := ⟨⟨"out"⟩, false, true, false⟩
    let other : Config := ⟨⟨"lib"⟩, false, false, true⟩
    (first.Quotable ∧ second.Quotable ∧
      (plan first config).files.map (·.contents) = (plan second other).files.map (·.contents)) ∧
    first.enumerations.map Enumeration.declaration ++ first.models.map (·.declaration true) =
      second.enumerations.map Enumeration.declaration ++
        second.models.map (·.declaration false) := by
  intro role status link first second config other
  have statusQuotable : status.Quotable :=
    ⟨by decide, fun _ => by decide, by simp [status, Field.withDefault]; decide,
      by simp [status, Field.withDefault, Field.list, Field.enumeration, Field.plain]; decide⟩
  have firstQuotable : first.Quotable := by
    refine ⟨by decide, by decide, ?_⟩
    simp [first, statusQuotable]
  have secondQuotable : second.Quotable := by
    refine ⟨by decide, by decide, ?_⟩
    have dropped : ¬ link.IsEmitted := by decide
    simp [second, statusQuotable, dropped]
  have equal : (plan first config).files.map (·.contents) =
      (plan second other).files.map (·.contents) := by
    rfl
  exact ⟨⟨firstQuotable, secondQuotable, equal⟩,
    contents_determine_declarations.1 first second config other firstQuotable secondQuotable
      rfl rfl equal⟩

end Datamodel

end PrismaZod
