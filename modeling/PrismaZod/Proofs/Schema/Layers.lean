import PrismaZod.Proofs.Schema.Accounting

/-!
# The layers of emitted fields

Read from the outside, the validator of a field is a default, what may be null
and a list, each there or not, around an atom.  Each layer is decided by one part
of the field, and what decides none of them does not count at all.
-/

namespace PrismaZod

/-- A validator from the outside: its default, whether it may be null, whether it
is a list, and what is left without these. -/
structure Layers where
  default? : Option Literal
  isNullable : Bool
  isList : Bool
  atom : Validator
deriving DecidableEq, Repr

namespace Validator

def isAtom : Validator → Bool
  | array _ | nullable _ | withDefault _ _ => false
  | _ => true

def takeDefault : Validator → Option Literal × Validator
  | withDefault base literal => (some literal, base)
  | other => (none, other)

def takeNull : Validator → Bool × Validator
  | nullable base => (true, base)
  | other => (false, other)

def takeList : Validator → Bool × Validator
  | array item => (true, item)
  | other => (false, other)

/-- Take off one layer of each sort, in this order, where it is the outermost one. -/
def layers (validator : Validator) : Layers :=
  let given := validator.takeDefault
  let present := given.2.takeNull
  let item := present.2.takeList
  ⟨given.1, present.1, item.1, item.2⟩

end Validator

/-- A default that has a literal: a text, a number or, unless the type is that of
big integers, a truth value. -/
inductive Json.Inlines (type : String) : Json → Prop
  | string (text : String) : Inlines type (.string text)
  | number (value : Number) : Inlines type (.number value)
  | boolean (truth : Bool) : type ≠ Scalar.bigInt.name → Inlines type (.boolean truth)

theorem Literal.exists_ofDefault_iff (type : String) (value : Json) :
    (∃ literal, ofDefault type value = .ok literal) ↔ value.Inlines type := by
  constructor
  · rintro ⟨literal, written⟩
    obtain ⟨-, ⟨-, isBigInt⟩ | ⟨notBigInt, isValue⟩⟩ := ofDefault_eq_ok written
    · rcases ofBigInt_eq_ok isBigInt with ⟨text, rfl, -⟩ | ⟨number, rfl, -⟩
      · exact .string text
      · exact .number number
    · rcases ofValue_eq_ok isValue with ⟨text, rfl, -⟩ | ⟨number, rfl, -⟩ | ⟨truth, rfl, -⟩
      · exact .string text
      · exact .number number
      · exact .boolean truth notBigInt
  · intro inlines
    by_cases isBigInt : type = Scalar.bigInt.name
    · cases inlines with
      | string text =>
          exact ⟨.bigInt text, by simp [ofDefault, Json.generator?, isBigInt, ofBigInt]⟩
      | number value =>
          exact ⟨.bigInt value.text, by simp [ofDefault, Json.generator?, isBigInt, ofBigInt]⟩
      | boolean truth notBigInt => exact absurd isBigInt notBigInt
    · cases inlines with
      | string text =>
          exact ⟨.string text, by simp [ofDefault, Json.generator?, isBigInt, ofValue]⟩
      | number value =>
          exact ⟨.raw value.text, by simp [ofDefault, Json.generator?, isBigInt, ofValue]⟩
      | boolean truth notBigInt =>
          cases truth <;> simp [ofDefault, Json.generator?, isBigInt, ofValue]

theorem Scalar.ofName?_eq_none_iff {type : String} :
    ofName? type = none ↔ type ∉ all.map name := by
  simp [ofName?, List.find?_eq_none]

namespace Field

variable {field other : Field} {coerceDate : Bool} {base : Validator}

theorem relation?_eq_some_iff {name : String} :
    field.relation? = some name ↔ field.relationName = some name ∧ name ≠ "" := by
  simp [relation?, Option.filter_eq_some_iff]

theorem relation?_eq_none_iff :
    field.relation? = none ↔ ∀ name, field.relationName = some name → name = "" := by
  simp [relation?, Option.filter_eq_none_iff]

theorem DroppedFor.emit {reason : Drop} (dropped : field.DroppedFor reason) (coerceDate : Bool) :
    field.emit coerceDate = .error reason := by
  cases dropped with
  | relation isRelation => rw [Field.emit, isRelation]
  | unsupported noRelation notEnumeration noScalar =>
      rw [Field.emit, noRelation, baseValidator, if_neg notEnumeration, scalarValidator?, noScalar]
      rfl

theorem emit_eq_error_iff {reason : Drop} :
    field.emit coerceDate = .error reason ↔ field.DroppedFor reason :=
  ⟨droppedFor_of_emit, fun dropped => dropped.emit coerceDate⟩

theorem isAtom_baseValidator (found : field.baseValidator coerceDate = .ok base) :
    base.isAtom = true := by
  rcases baseValidator_eq_ok found with ⟨-, rfl⟩ | ⟨-, scalar, -, rfl⟩
  · rfl
  · cases scalar <;> rfl

theorem layers_wrap (atom : base.isAtom = true) :
    (field.wrap base).layers = ⟨none, !field.isRequired, field.isList, base⟩ := by
  rw [wrap]
  cases base with
  | array _ | nullable _ | withDefault _ _ => cases atom
  | _ => cases field.isRequired <;> cases field.isList <;> rfl

theorem layers_withDefault (atom : base.isAtom = true) (literal : Literal) :
    (Validator.withDefault (field.wrap base) literal).layers =
      ⟨some literal, !field.isRequired, field.isList, base⟩ := by
  rw [wrap]
  cases base with
  | array _ | nullable _ | withDefault _ _ => cases atom
  | _ => cases field.isRequired <;> cases field.isList <;> rfl

/-- The atom refers to the type of an enumeration, and to nothing for other kinds. -/
theorem baseValidator_eq_reference_iff (found : field.baseValidator coerceDate = .ok base)
    (name : String) : base = .reference name ↔ field.kind = .enumeration ∧ name = field.type := by
  rcases baseValidator_eq_ok found with ⟨enumeration, rfl⟩ | ⟨notEnumeration, scalar, -, rfl⟩
  · simp [enumeration, eq_comm]
  · cases scalar <;> simp [Scalar.validator, notEnumeration]

/-- How a field shows in the layers of its validator and in what is omitted. -/
structure Shows (field : Field) (layers : Layers) (omission : Option Omission) : Prop where
  atom : layers.atom.isAtom = true
  default_iff : layers.default?.isSome = true ↔
    field.hasDefault = true ∧ ∃ value, field.default = some value ∧ value.Inlines field.type
  /-- Null, lists and objects are not inlined. -/
  no_literal : ∀ value, field.default = some value →
    (value = .null ∨ (∃ items, value = .array items) ∨ ∃ members, value = .object members) →
      layers.default? = none
  nullable : layers.isNullable = !field.isRequired
  list : layers.isList = field.isList
  reference_iff : ∀ name, layers.atom = .reference name ↔
    field.kind = .enumeration ∧ name = field.type
  /-- A default that is left out is told of. -/
  omission_iff : omission.isSome = true ↔
    field.hasDefault = true ∧ field.default.isSome = true ∧ layers.default? = none

theorem shows_of_emit {emitted : Emitted} (emits : field.emit coerceDate = .ok emitted) :
    emitted.property.name = field.name ∧
      field.Shows emitted.property.validator.layers emitted.omission := by
  obtain ⟨-, base, found, emission⟩ := emit_eq_ok emits
  have atom := isAtom_baseValidator found
  have reference_iff := baseValidator_eq_reference_iff found
  rcases emission with
    ⟨noDefault, rfl⟩ | ⟨value, given, ⟨literal, written, rfl⟩ | ⟨omission, omitted, rfl⟩⟩
  · have unflagged : ¬(field.hasDefault = true ∧ field.default.isSome = true) := by
      rintro ⟨flagged, isSome⟩
      rw [default?, if_pos flagged] at noDefault
      rw [noDefault] at isSome
      cases isSome
    refine ⟨rfl, ?_⟩
    rw [layers_wrap atom]
    refine ⟨atom, iff_of_false (by simp) ?_, fun _ _ _ => rfl, rfl, rfl, reference_iff,
      iff_of_false (by simp) fun told => unflagged ⟨told.1, told.2.1⟩⟩
    rintro ⟨flagged, value, isValue, -⟩
    exact unflagged ⟨flagged, by rw [isValue, Option.isSome_some]⟩
  · obtain ⟨flagged, isValue⟩ := default?_eq_some_iff.mp given
    have inlines := (Literal.exists_ofDefault_iff field.type value).mp ⟨literal, written⟩
    refine ⟨rfl, ?_⟩
    rw [layers_withDefault atom]
    refine ⟨atom, iff_of_true rfl ⟨flagged, value, isValue, inlines⟩, ?_, rfl, rfl, reference_iff,
      by simp⟩
    intro other isOther shape
    obtain rfl : value = other := Option.some.inj (isValue.symm.trans isOther)
    rcases shape with rfl | ⟨items, rfl⟩ | ⟨members, rfl⟩ <;> cases inlines
  · obtain ⟨flagged, isValue⟩ := default?_eq_some_iff.mp given
    have notInlined : ¬value.Inlines field.type := by
      rw [← Literal.exists_ofDefault_iff, omitted]
      simp
    refine ⟨rfl, ?_⟩
    rw [layers_wrap atom]
    exact ⟨atom, by simp [isValue, notInlined], fun _ _ _ => rfl, rfl, rfl, reference_iff,
      by simp [flagged, isValue]⟩

/-- The fields differ in nothing but their documentation, their kinds where neither
is that of an enumeration, and defaults that are not flagged. -/
structure Alike (field other : Field) : Prop where
  name : field.name = other.name
  kind : field.kind = other.kind ∨ field.kind ≠ .enumeration ∧ other.kind ≠ .enumeration
  type : field.type = other.type
  isList : field.isList = other.isList
  isRequired : field.isRequired = other.isRequired
  hasDefault : field.hasDefault = other.hasDefault
  default : field.default = other.default ∨ field.hasDefault = false
  relationName : field.relationName = other.relationName

namespace Alike

variable (alike : field.Alike other)

include alike

theorem baseValidator (coerceDate : Bool) :
    field.baseValidator coerceDate = other.baseValidator coerceDate := by
  have sameKind : field.kind = .enumeration ↔ other.kind = .enumeration := by
    rcases alike.kind with same | ⟨first, second⟩
    · rw [same]
    · exact iff_of_false first second
  simp only [Field.baseValidator, sameKind, alike.type]

theorem default? : field.default? = other.default? := by
  rw [Field.default?, Field.default?, ← alike.hasDefault]
  rcases alike.default with same | unflagged
  · rw [same]
  · simp [unflagged]

theorem emit (coerceDate : Bool) : field.emit coerceDate = other.emit coerceDate := by
  have sameWrap (base : Validator) : field.wrap base = other.wrap base := by
    rw [wrap, wrap, alike.isList, alike.isRequired]
  simp only [Field.emit, relation?, alike.relationName, alike.baseValidator, alike.default?,
    sameWrap, alike.type, alike.name]

end Alike

/-- A field is dropped for its relation or else for its type; what it is emitted as
shows its flags, layer by layer; and its documentation, its kind beyond being that of
an enumeration and a default without its flag do not count. -/
theorem emit_shape (field : Field) (coerceDate : Bool) :
    (∀ reason, field.emit coerceDate = .error reason ↔
      (∃ name, field.relationName = some name ∧ name ≠ "" ∧ reason = .relation name) ∨
      (∀ name, field.relationName = some name → name = "") ∧ field.kind ≠ .enumeration ∧
        field.type ∉ Scalar.all.map Scalar.name ∧ reason = .unsupported field.type) ∧
    (∀ emitted, field.emit coerceDate = .ok emitted →
      emitted.property.name = field.name ∧
        field.Shows emitted.property.validator.layers emitted.omission) ∧
    ∀ other, field.Alike other → field.emit coerceDate = other.emit coerceDate := by
  refine ⟨fun reason => ?_, fun emitted => shows_of_emit, fun other alike => alike.emit coerceDate⟩
  rw [emit_eq_error_iff, ← relation?_eq_none_iff, ← Scalar.ofName?_eq_none_iff]
  constructor
  · intro dropped
    cases dropped with
    | relation isRelation =>
        obtain ⟨isName, notEmpty⟩ := relation?_eq_some_iff.mp isRelation
        exact .inl ⟨_, isName, notEmpty, rfl⟩
    | unsupported noRelation notEnumeration noScalar =>
        exact .inr ⟨noRelation, notEnumeration, noScalar, rfl⟩
  · rintro (⟨name, isName, notEmpty, rfl⟩ | ⟨noRelation, notEnumeration, noScalar, rfl⟩)
    · exact .relation (relation?_eq_some_iff.mpr ⟨isName, notEmpty⟩)
    · exact .unsupported noRelation notEnumeration noScalar

/-- An enumeration with the name of big integers does not inline a truth value; a kind
that is no enumeration and a default without its flag do not count; and a relation
counts before the type. -/
theorem emit_shape_sizes :
    let sizes : Field :=
      ⟨"sizes", .enumeration, "BigInt", true, false, true, some (.boolean true), some "", none⟩
    let emitted : Emitted :=
      ⟨⟨"sizes", .nullable (.array (.reference "BigInt"))⟩, some .noLiteral⟩
    let title := Field.scalar "title" "String"
    let other : Field := { title with
      kind := .object, default := some (.string "Untitled"), documentation := some "A line." }
    (sizes.emit true = .ok emitted ∧ title.Alike other) ∧
      sizes.Shows ⟨none, true, true, .reference "BigInt"⟩ (some .noLiteral) ∧
      title.emit true = other.emit true ∧
      (Field.scalar "authorId" "Int" |>.withRelation "Author").emit true =
        .error (.relation "Author") := by
  intro sizes emitted title other
  have emits : sizes.emit true = .ok emitted := rfl
  have alike : title.Alike other :=
    ⟨rfl, .inr ⟨by decide, by decide⟩, rfl, rfl, rfl, rfl, .inr rfl, rfl⟩
  obtain ⟨-, shows, -⟩ := emit_shape sizes true
  obtain ⟨-, -, same⟩ := emit_shape title true
  obtain ⟨drops, -, -⟩ := emit_shape (Field.scalar "authorId" "Int" |>.withRelation "Author") true
  exact ⟨⟨emits, alike⟩, (shows emitted emits).2, same other alike,
    (drops _).mpr (.inl ⟨"Author", rfl, by decide, rfl⟩)⟩

end Field

end PrismaZod
