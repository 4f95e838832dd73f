import PrismaZod.Schema.Entity

/-!
# Emission of fields

When a field has a property, and what the property is made of: the validator of
its type, wrapped for how many values it has, and the default if that has a
literal.
-/

namespace PrismaZod

namespace Literal

theorem ofBigInt_eq_ok {value : Json} {literal : Literal}
    (written : ofBigInt value = .ok literal) :
    (∃ text, value = .string text ∧ literal = .bigInt text) ∨
      ∃ number, value = .number number ∧ literal = .bigInt number.text := by
  cases value with
  | string text => exact .inl ⟨text, rfl, (Except.ok.inj written).symm⟩
  | number number => exact .inr ⟨number, rfl, (Except.ok.inj written).symm⟩
  | _ => contradiction

theorem ofValue_eq_ok {value : Json} {literal : Literal}
    (written : ofValue value = .ok literal) :
    (∃ text, value = .string text ∧ literal = .string text) ∨
      (∃ number, value = .number number ∧ literal = .raw number.text) ∨
        ∃ truth, value = .boolean truth ∧
          literal = .raw (if truth then "true" else "false") := by
  cases value with
  | string text => exact .inl ⟨text, rfl, (Except.ok.inj written).symm⟩
  | number number => exact .inr (.inl ⟨number, rfl, (Except.ok.inj written).symm⟩)
  | boolean truth =>
      cases truth <;> exact .inr (.inr ⟨_, rfl, (Except.ok.inj written).symm⟩)
  | _ => contradiction

/-- A default with a literal calls no generator, and its type decides how the
literal is made. -/
theorem ofDefault_eq_ok {type : String} {value : Json} {literal : Literal}
    (written : ofDefault type value = .ok literal) :
    value.generator? = none ∧
      ((type = Scalar.bigInt.name ∧ ofBigInt value = .ok literal) ∨
        (type ≠ Scalar.bigInt.name ∧ ofValue value = .ok literal)) := by
  unfold ofDefault at written
  split at written
  · contradiction
  · rename_i noGenerator
    refine ⟨noGenerator, ?_⟩
    split at written
    · rename_i isBigInt
      exact .inl ⟨isBigInt, written⟩
    · rename_i notBigInt
      exact .inr ⟨notBigInt, written⟩

end Literal

namespace Field

/-- The field has a property in the schema of its model: it links to no other
model, and its type is that of an enumeration or a scalar type. -/
def IsEmitted (field : Field) : Prop :=
  field.relation? = none ∧
    (field.kind = .enumeration ∨ (Scalar.ofName? field.type).isSome = true)

instance (field : Field) : Decidable field.IsEmitted :=
  inferInstanceAs (Decidable (_ ∧ _))

variable {field : Field} {coerceDate : Bool}

/-- The validator of a type is the schema of an enumeration or that of a scalar. -/
theorem baseValidator_eq_ok {base : Validator}
    (found : field.baseValidator coerceDate = .ok base) :
    (field.kind = .enumeration ∧ base = .reference field.type) ∨
      (field.kind ≠ .enumeration ∧
        ∃ scalar, Scalar.ofName? field.type = some scalar ∧
          base = scalar.validator coerceDate) := by
  unfold baseValidator at found
  split at found
  · rename_i enumeration
    cases found
    exact .inl ⟨enumeration, rfl⟩
  · rename_i notEnumeration
    split at found
    · rename_i validator scalarFound
      cases found
      obtain ⟨scalar, ofName, rfl⟩ := Option.map_eq_some_iff.mp scalarFound
      exact .inr ⟨notEnumeration, scalar, ofName, rfl⟩
    · contradiction

/-- What a field is emitted as: the wrapped validator of its type, and its
default either as a literal around that, or omitted. -/
theorem emit_eq_ok {emitted : Emitted} (emits : field.emit coerceDate = .ok emitted) :
    field.relation? = none ∧
      ∃ base, field.baseValidator coerceDate = .ok base ∧
        ((field.default? = none ∧ emitted = ⟨⟨field.name, field.wrap base⟩, none⟩) ∨
          ∃ value, field.default? = some value ∧
            ((∃ literal, Literal.ofDefault field.type value = .ok literal ∧
                emitted = ⟨⟨field.name, .withDefault (field.wrap base) literal⟩, none⟩) ∨
              ∃ omission, Literal.ofDefault field.type value = .error omission ∧
                emitted = ⟨⟨field.name, field.wrap base⟩, some omission⟩)) := by
  unfold emit at emits
  split at emits
  · contradiction
  · rename_i noRelation
    refine ⟨noRelation, ?_⟩
    split at emits
    · contradiction
    · rename_i base found
      refine ⟨base, found, ?_⟩
      cases given : field.default? with
      | none =>
          simp only [given, Option.map_none, Except.ok.injEq] at emits
          exact .inl ⟨rfl, emits.symm⟩
      | some value =>
          cases written : Literal.ofDefault field.type value with
          | ok literal =>
              simp only [given, Option.map_some, written, Except.ok.injEq] at emits
              exact .inr ⟨value, rfl, .inl ⟨literal, written, emits.symm⟩⟩
          | error omission =>
              simp only [given, Option.map_some, written, Except.ok.injEq] at emits
              exact .inr ⟨value, rfl, .inr ⟨omission, written, emits.symm⟩⟩

theorem baseValidator_of_enumeration (enumeration : field.kind = .enumeration) :
    field.baseValidator coerceDate = .ok (.reference field.type) := by
  rw [baseValidator, if_pos enumeration]

theorem baseValidator_of_scalar {scalar : Scalar} (notEnumeration : field.kind ≠ .enumeration)
    (ofName : Scalar.ofName? field.type = some scalar) :
    field.baseValidator coerceDate = .ok (scalar.validator coerceDate) := by
  rw [baseValidator, if_neg notEnumeration, scalarValidator?, ofName, Option.map_some]

theorem exists_baseValidator (emitted : field.IsEmitted) (coerceDate : Bool) :
    ∃ base, field.baseValidator coerceDate = .ok base := by
  by_cases enumeration : field.kind = .enumeration
  · exact ⟨_, baseValidator_of_enumeration enumeration⟩
  · have isScalar := emitted.2.resolve_left enumeration
    obtain ⟨scalar, ofName⟩ := Option.isSome_iff_exists.mp isScalar
    exact ⟨_, baseValidator_of_scalar enumeration ofName⟩

/-- A default that counts is inlined as a literal, or omitted for the reason why it
has none. -/
theorem emit_of_default {base : Validator} {value : Json} (noRelation : field.relation? = none)
    (found : field.baseValidator coerceDate = .ok base) (given : field.default? = some value) :
    field.emit coerceDate =
      match Literal.ofDefault field.type value with
      | .ok literal => .ok ⟨⟨field.name, .withDefault (field.wrap base) literal⟩, none⟩
      | .error omission => .ok ⟨⟨field.name, field.wrap base⟩, some omission⟩ := by
  rw [emit, noRelation, found, given]
  dsimp only [Option.map_some]
  cases Literal.ofDefault field.type value <;> rfl

theorem property?_eq_some {property : Property}
    (has : field.property? coerceDate = some property) :
    ∃ omission, field.emit coerceDate = .ok ⟨property, omission⟩ := by
  unfold property? at has
  split at has
  · rename_i emitted emits
    cases has
    exact ⟨emitted.omission, emits⟩
  · contradiction

theorem isEmitted_of_emit {emitted : Emitted}
    (emits : field.emit coerceDate = .ok emitted) : field.IsEmitted := by
  obtain ⟨noRelation, base, found, -⟩ := emit_eq_ok emits
  refine ⟨noRelation, ?_⟩
  rcases baseValidator_eq_ok found with ⟨enumeration, -⟩ | ⟨-, scalar, ofName, -⟩
  · exact .inl enumeration
  · exact .inr (by simp [ofName])

end Field

end PrismaZod
