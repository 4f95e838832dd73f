import PrismaZod.Proofs.Schema.Emission

/-!
# Accounts of fields

Every field of a model has a property, is reported to be dropped, or has a
property and is reported to have lost its default.  Taken together in the order
of the fields, these are the properties of the model and its diagnostics.
-/

namespace PrismaZod

/-- The outermost layer of the validator is a default. -/
def Validator.hasDefault : Validator → Bool
  | withDefault _ _ => true
  | _ => false

def Diagnostic.isDrop (diagnostic : Diagnostic) : Bool :=
  match diagnostic.leftOut with
  | .field _ => true
  | .default _ => false

/-- The properties of a declaration; an enumeration has none. -/
def Declaration.properties (declaration : Declaration) : List Property :=
  match declaration.body with
  | .enumeration _ => []
  | .object properties => properties

/-- Why a default without a literal is left out: an object with a name calls the
generator of this name. -/
def Omission.ofValue (value : Json) : Omission :=
  match value.generator? with
  | some name => .generated name
  | none => .noLiteral

theorem Omission.eq_of_ofDefault {type : String} {value : Json} {omission : Omission}
    (omitted : Literal.ofDefault type value = .error omission) : omission = .ofValue value := by
  rw [Literal.ofDefault] at omitted
  rw [Omission.ofValue]
  cases calls : value.generator? with
  | some name =>
      rw [calls] at omitted
      cases omitted
      rfl
  | none =>
      rw [calls] at omitted
      dsimp only at omitted ⊢
      split at omitted
      · unfold Literal.ofBigInt at omitted
        split at omitted <;> cases omitted
        rfl
      · unfold Literal.ofValue at omitted
        split at omitted <;> cases omitted
        rfl

namespace Field

/-- A field is dropped for the relation that it belongs to, or else for a type
that no validator is made for. -/
inductive DroppedFor (field : Field) : Drop → Prop
  | relation {name : String} : field.relation? = some name → DroppedFor field (.relation name)
  | unsupported : field.relation? = none → field.kind ≠ .enumeration →
      Scalar.ofName? field.type = none → DroppedFor field (.unsupported field.type)

/-- What becomes of a field: its property and what is left out of it. -/
inductive Outcome (field : Field) (coerceDate : Bool) :
    Option Property → Option LeftOut → Prop
  | dropped {reason : Drop} :
      field.DroppedFor reason → Outcome field coerceDate none (some (.field reason))
  /-- The property has a default just when one is flagged and given. -/
  | whole {property : Property} : field.IsEmitted →
      field.property? coerceDate = some property → property.name = field.name →
      (property.validator.hasDefault = true ↔
        field.hasDefault = true ∧ field.default.isSome = true) →
        Outcome field coerceDate (some property) none
  /-- A default is flagged and given, but the property is without it. -/
  | withoutDefault {property : Property} {value : Json} : field.IsEmitted →
      field.property? coerceDate = some property → property.name = field.name →
      field.hasDefault = true → field.default = some value →
      property.validator.hasDefault = false →
        Outcome field coerceDate (some property) (some (.default (.ofValue value)))

variable {field : Field} {coerceDate : Bool} {property : Option Property}
  {leftOut : Option LeftOut}

theorem default?_eq_some_iff {value : Json} :
    field.default? = some value ↔ field.hasDefault = true ∧ field.default = some value := by
  rw [default?]
  split <;> simp [*]

theorem hasDefault_wrap {base : Validator} (plain : base.hasDefault = false) :
    (field.wrap base).hasDefault = false := by
  unfold wrap
  cases field.isRequired with
  | false => rfl
  | true =>
      cases field.isList with
      | false => exact plain
      | true => rfl

theorem hasDefault_baseValidator {base : Validator}
    (found : field.baseValidator coerceDate = .ok base) : base.hasDefault = false := by
  rcases baseValidator_eq_ok found with ⟨-, rfl⟩ | ⟨-, scalar, -, rfl⟩
  · rfl
  · cases scalar <;> rfl

theorem droppedFor_of_emit {reason : Drop} (drops : field.emit coerceDate = .error reason) :
    field.DroppedFor reason := by
  unfold emit at drops
  split at drops
  · rename_i name isRelation
    cases drops
    exact .relation isRelation
  · rename_i noRelation
    split at drops
    · rename_i drop unsupported
      cases drops
      unfold baseValidator at unsupported
      split at unsupported
      · cases unsupported
      · rename_i notEnumeration
        split at unsupported
        · cases unsupported
        · rename_i noValidator
          cases unsupported
          exact .unsupported noRelation notEnumeration (Option.map_eq_none_iff.mp noValidator)
    · split at drops <;> cases drops

theorem DroppedFor.not_isEmitted {reason : Drop} (dropped : field.DroppedFor reason) :
    ¬field.IsEmitted := by
  rintro ⟨noRelation, supported⟩
  cases dropped with
  | relation isRelation =>
      rw [noRelation] at isRelation
      cases isRelation
  | unsupported _ notEnumeration noScalar =>
      rcases supported with enumeration | scalar
      · exact notEnumeration enumeration
      · rw [noScalar] at scalar
        cases scalar

/-- Every field has one of the outcomes. -/
theorem outcome (field : Field) (coerceDate : Bool) :
    field.Outcome coerceDate (field.property? coerceDate) (field.leftOut? coerceDate) := by
  cases emits : field.emit coerceDate with
  | error reason =>
      have noProperty : field.property? coerceDate = none := by simp [property?, emits]
      have leftOut : field.leftOut? coerceDate = some (.field reason) := by
        simp [leftOut?, emits]
      rw [noProperty, leftOut]
      exact .dropped (droppedFor_of_emit emits)
  | ok emitted =>
      have has : field.property? coerceDate = some emitted.property := by simp [property?, emits]
      have leftOut : field.leftOut? coerceDate = emitted.omission.map .default := by
        simp [leftOut?, emits]
      have isEmitted := isEmitted_of_emit emits
      obtain ⟨noRelation, base, found, emission⟩ := emit_eq_ok emits
      have plain : (field.wrap base).hasDefault = false :=
        hasDefault_wrap (hasDefault_baseValidator found)
      rw [leftOut, has]
      rcases emission with
        ⟨noDefault, rfl⟩ | ⟨value, given, ⟨literal, -, rfl⟩ | ⟨omission, omitted, rfl⟩⟩
      · have notGiven : ¬(field.hasDefault = true ∧ field.default.isSome = true) := by
          rintro ⟨flagged, isSome⟩
          obtain ⟨value, isValue⟩ := Option.isSome_iff_exists.mp isSome
          rw [default?_eq_some_iff.mpr ⟨flagged, isValue⟩] at noDefault
          cases noDefault
        exact .whole isEmitted has rfl (by simp only [plain, notGiven, Bool.false_eq_true])
      · obtain ⟨flagged, isValue⟩ := default?_eq_some_iff.mp given
        exact .whole isEmitted has rfl (by simp [Validator.hasDefault, flagged, isValue])
      · obtain ⟨flagged, isValue⟩ := default?_eq_some_iff.mp given
        rw [Omission.eq_of_ofDefault omitted]
        exact .withoutDefault isEmitted has rfl flagged isValue plain

end Field

/-- The outcomes of fields in order: their properties and the diagnostics that
name the model and the field. -/
inductive Account (model : String) (coerceDate : Bool) :
    List Field → List Property → List Diagnostic → Prop
  | none : Account model coerceDate [] [] []
  | next {field : Field} {fields : List Field} {property : Option Property}
      {leftOut : Option LeftOut} {properties : List Property} {diagnostics : List Diagnostic} :
      field.Outcome coerceDate property leftOut →
      Account model coerceDate fields properties diagnostics →
        Account model coerceDate (field :: fields) (property.toList ++ properties)
          ((leftOut.map (⟨model, field.name, ·⟩)).toList ++ diagnostics)

namespace Account

variable {model : String} {coerceDate : Bool} {fields : List Field}
  {properties : List Property} {diagnostics : List Diagnostic}

/-- There is a property or a report of a drop for each field. -/
theorem length (account : Account model coerceDate fields properties diagnostics) :
    properties.length + diagnostics.countP Diagnostic.isDrop = fields.length := by
  induction account with
  | none => rfl
  | next outcome _ ih =>
      cases outcome <;> simp [List.countP_cons, Diagnostic.isDrop] <;> omega

theorem names (account : Account model coerceDate fields properties diagnostics) :
    properties.map (·.name) = (fields.filter fun field => decide field.IsEmitted).map (·.name) := by
  induction account with
  | none => rfl
  | next outcome _ ih =>
      cases outcome with
      | dropped dropped => simp [dropped.not_isEmitted, ih]
      | whole isEmitted _ named _ => simp [isEmitted, named, ih]
      | withoutDefault isEmitted _ named _ _ _ => simp [isEmitted, named, ih]

end Account

theorem toList_append_filterMap {α β : Type} (choose : α → Option β) (item : α)
    (items : List α) :
    (choose item).toList ++ items.filterMap choose = (item :: items).filterMap choose := by
  cases chosen : choose item <;> simp [chosen]

theorem Model.account (model : Model) (coerceDate : Bool) :
    Account model.name coerceDate model.fields (model.declaration coerceDate).properties
      (model.diagnostics coerceDate) := by
  show Account model.name coerceDate model.fields
    (model.fields.filterMap (·.property? coerceDate))
    (model.fields.filterMap fun field =>
      (field.leftOut? coerceDate).map (⟨model.name, field.name, ·⟩))
  induction model.fields with
  | nil => exact .none
  | cons field fields ih =>
      rw [← toList_append_filterMap, ← toList_append_filterMap]
      exact .next (field.outcome coerceDate) ih

end PrismaZod
