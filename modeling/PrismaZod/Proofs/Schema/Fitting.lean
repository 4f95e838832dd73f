import PrismaZod.Proofs.Decimal.Characters
import PrismaZod.Proofs.Schema.Accounting

/-!
# Defaults that fit their validators

The literal of a default is made from the value and the name of the type, the
validator from the type and the coercion of dates.  For the values that documents
give as defaults the two fit, except for decimals, bytes, dates that are not coerced
and enumerations with the name of big integers.
-/

namespace PrismaZod

/-- What a literal is in a script. -/
inductive LiteralKind
  | text
  | number
  | boolean
  | bigInt
deriving DecidableEq, Repr

def Literal.kind : Literal → LiteralKind
  | string _ => .text
  | raw text => if text = "true" ∨ text = "false" then .boolean else .number
  | bigInt _ => .bigInt

/-- The kinds of literals that a validator without wrappers accepts. -/
def Validator.accepts : Validator → LiteralKind → Bool
  | unknown, _ => true
  | string, .text | date true, .text | reference _, .text => true
  | int, .number | number, .number => true
  | boolean, .boolean => true
  | bigInt, .bigInt => true
  | _, _ => false

namespace Scalar

/-- The values that documents give as defaults of a scalar type. -/
def Writes : Scalar → Json → Prop
  | int, value | float, value | decimal, value => ∃ number, value = .number number
  | boolean, value => ∃ truth, value = .boolean truth
  | string, value | bigInt, value | dateTime, value | bytes, value | json, value =>
      ∃ text, value = .string text

/-- The kind of the literals that are made of these values. -/
def literalKind : Scalar → LiteralKind
  | int | float | decimal => .number
  | boolean => .boolean
  | bigInt => .bigInt
  | string | dateTime | bytes | json => .text

/-- The validator does not accept these literals. -/
def misfits (coerceDate : Bool) : Scalar → Bool
  | decimal | bytes => true
  | dateTime => !coerceDate
  | _ => false

theorem accepts_literalKind (scalar : Scalar) (coerceDate : Bool) :
    (scalar.validator coerceDate).accepts scalar.literalKind = !scalar.misfits coerceDate := by
  cases scalar <;> cases coerceDate <;> rfl

theorem eq_name_of_ofName? {type : String} {scalar : Scalar}
    (found : ofName? type = some scalar) : type = scalar.name := by
  have same := List.find?_some found
  exact (beq_iff_eq.mp same).symm

end Scalar

theorem Literal.kind_number (number : Number) : (Literal.raw number.text).kind = .number := by
  have notWord {word : String} (letter : Char) (among : letter ∈ word.toList)
      (foreign : isNumberChar letter = false) : number.text ≠ word := by
    rintro rfl
    rw [number.isNumeric_text letter among] at foreign
    cases foreign
  have notTrue : number.text ≠ "true" := notWord 't' (by decide) (by decide)
  have notFalse : number.text ≠ "false" := notWord 'f' (by decide) (by decide)
  simp [kind, notTrue, notFalse]

/-- The value that a document gives as the default of a scalar has a literal, whose
kind depends on the scalar alone. -/
theorem Scalar.exists_literal {scalar : Scalar} {value : Json} (written : scalar.Writes value) :
    ∃ literal, Literal.ofDefault scalar.name value = .ok literal ∧
      literal.kind = scalar.literalKind := by
  cases scalar with
  | int | float | decimal =>
      obtain ⟨number, rfl⟩ := written
      exact ⟨.raw number.text, rfl, Literal.kind_number number⟩
  | boolean =>
      obtain ⟨truth, rfl⟩ := written
      cases truth with
      | false => exact ⟨.raw "false", rfl, rfl⟩
      | true => exact ⟨.raw "true", rfl, rfl⟩
  | bigInt =>
      obtain ⟨text, rfl⟩ := written
      exact ⟨.bigInt text, rfl, rfl⟩
  | string | dateTime | bytes | json =>
      obtain ⟨text, rfl⟩ := written
      exact ⟨.string text, rfl, rfl⟩

namespace Field

/-- The values that documents give as defaults of a field: the name of a value for an
enumeration, and what its type asks for otherwise. -/
inductive Writes (field : Field) : Json → Prop
  | enumeration (text : String) : field.kind = .enumeration → Writes field (.string text)
  | scalar {scalar : Scalar} {value : Json} : field.kind ≠ .enumeration →
      Scalar.ofName? field.type = some scalar → scalar.Writes value → Writes field value

/-- The validator of the field does not accept the literals of its defaults. -/
def Misfits (field : Field) (coerceDate : Bool) : Prop :=
  if field.kind = .enumeration then field.type = Scalar.bigInt.name
  else ∃ scalar, Scalar.ofName? field.type = some scalar ∧ scalar.misfits coerceDate = true

variable {field : Field} {coerceDate : Bool} {value : Json} {base : Validator}

theorem wrap_of_single (single : field.isList = false) :
    field.wrap base = if field.isRequired then base else .nullable base := by
  rw [wrap, single]
  rfl

/-- A default that documents give has a literal, which the validator accepts unless
the field is one of those where the two do not fit. -/
theorem exists_literal (found : field.baseValidator coerceDate = .ok base)
    (written : field.Writes value) :
    ∃ literal, Literal.ofDefault field.type value = .ok literal ∧
      (base.accepts literal.kind = true ↔ ¬field.Misfits coerceDate) := by
  cases written with
  | enumeration text enumeration =>
      rw [baseValidator_of_enumeration enumeration] at found
      cases found
      rw [Misfits, if_pos enumeration]
      by_cases named : field.type = Scalar.bigInt.name
      · refine ⟨.bigInt text, ?_, by simp [Validator.accepts, Literal.kind, named]⟩
        rw [named]
        rfl
      · refine ⟨.string text, ?_, by simp [Validator.accepts, Literal.kind, named]⟩
        simp [Literal.ofDefault, Json.generator?, named, Literal.ofValue]
  | @scalar scalar _ notEnumeration ofName written =>
      rw [baseValidator_of_scalar notEnumeration ofName] at found
      cases found
      obtain ⟨literal, isLiteral, kind⟩ := Scalar.exists_literal written
      refine ⟨literal, by rw [Scalar.eq_name_of_ofName? ofName, isLiteral], ?_⟩
      rw [Misfits, if_neg notEnumeration, kind, scalar.accepts_literalKind]
      simp [ofName]

end Field

/-- A default of a field that is no list is inlined or reported.  One that documents
give is inlined, and the validator accepts it unless the field is a decimal, bytes,
a date that is not coerced or an enumeration with the name of big integers. -/
theorem inlined_default_fits_iff (field : Field) (coerceDate : Bool) (value : Json)
    (single : field.isList = false) (emitted : field.IsEmitted)
    (given : field.default? = some value) :
    ∃ base wrapped, field.baseValidator coerceDate = .ok base ∧
      wrapped = (if field.isRequired then base else .nullable base) ∧
      ((∃ literal, field.emit coerceDate =
          .ok ⟨⟨field.name, .withDefault wrapped literal⟩, none⟩) ∨
        field.emit coerceDate = .ok ⟨⟨field.name, wrapped⟩, some (.ofValue value)⟩) ∧
      (field.Writes value → ∃ literal,
        field.emit coerceDate = .ok ⟨⟨field.name, .withDefault wrapped literal⟩, none⟩ ∧
          (base.accepts literal.kind = true ↔ ¬field.Misfits coerceDate)) := by
  obtain ⟨base, found⟩ := Field.exists_baseValidator emitted coerceDate
  have emits := Field.emit_of_default emitted.1 found given
  rw [Field.wrap_of_single single] at emits
  refine ⟨base, _, found, rfl, ?_, ?_⟩
  · cases isLiteral : Literal.ofDefault field.type value with
    | ok literal =>
        rw [isLiteral] at emits
        exact .inl ⟨literal, emits⟩
    | error omission =>
        rw [isLiteral, Omission.eq_of_ofDefault isLiteral] at emits
        exact .inr emits
  · intro written
    obtain ⟨literal, isLiteral, fits⟩ := Field.exists_literal found written
    rw [isLiteral] at emits
    exact ⟨literal, emits, fits⟩

/-- The default of an optional date, which is accepted if dates are coerced. -/
theorem inlined_default_fits_iff_date :
    let value : Json := .string "2024-01-01T00:00:00Z"
    let since := (Field.scalar "since" "DateTime").optional.withDefault value
    (since.isList = false ∧ since.IsEmitted ∧ since.default? = some value ∧ since.Writes value) ∧
      ∀ coerceDate, ∃ base wrapped, since.baseValidator coerceDate = .ok base ∧
        wrapped = Validator.nullable base ∧
        ((∃ literal, since.emit coerceDate =
            .ok ⟨⟨"since", .withDefault wrapped literal⟩, none⟩) ∨
          since.emit coerceDate = .ok ⟨⟨"since", wrapped⟩, some (.ofValue value)⟩) ∧
        (since.Writes value → ∃ literal,
          since.emit coerceDate = .ok ⟨⟨"since", .withDefault wrapped literal⟩, none⟩ ∧
            (base.accepts literal.kind = true ↔ ¬since.Misfits coerceDate)) := by
  intro value since
  have emitted : since.IsEmitted := by decide
  have written : since.Writes value := .scalar (by decide) rfl ⟨_, rfl⟩
  exact ⟨⟨rfl, emitted, rfl, written⟩, fun coerceDate =>
    inlined_default_fits_iff since coerceDate value rfl emitted rfl⟩

/-- A decimal, a date that is not coerced, bytes and an enumeration with the name of
big integers: each default is given as documents give it and inlined, and the
validator does not accept it. -/
theorem misfits_inlined :
    let price := (Field.scalar "price" "Decimal").withDefault (.number (.integer 5))
    let since := (Field.scalar "since" "DateTime").withDefault (.string "2024-01-01")
    let stamp := (Field.scalar "stamp" "Bytes").withDefault (.string "AA==")
    let size := (Field.enumeration "size" "BigInt").withDefault (.string "LARGE")
    (price.Writes (.number (.integer 5)) ∧
      price.emit true = .ok ⟨⟨"price", .withDefault .string (.raw "5")⟩, none⟩ ∧
      Validator.string.accepts (Literal.raw "5").kind = false) ∧
    (since.Writes (.string "2024-01-01") ∧
      since.emit false =
        .ok ⟨⟨"since", .withDefault (.date false) (.string "2024-01-01")⟩, none⟩ ∧
      (Validator.date false).accepts (Literal.string "2024-01-01").kind = false) ∧
    (stamp.Writes (.string "AA==") ∧
      stamp.emit true =
        .ok ⟨⟨"stamp", .withDefault (.instanceOf "Uint8Array") (.string "AA==")⟩, none⟩ ∧
      (Validator.instanceOf "Uint8Array").accepts (Literal.string "AA==").kind = false) ∧
    (size.Writes (.string "LARGE") ∧
      size.emit true = .ok ⟨⟨"size", .withDefault (.reference "BigInt") (.bigInt "LARGE")⟩, none⟩ ∧
      (Validator.reference "BigInt").accepts (Literal.bigInt "LARGE").kind = false) := by
  exact ⟨⟨.scalar (by decide) rfl ⟨_, rfl⟩, rfl, rfl⟩,
    ⟨.scalar (by decide) rfl ⟨_, rfl⟩, rfl, rfl⟩,
    ⟨.scalar (by decide) rfl ⟨_, rfl⟩, rfl, rfl⟩, ⟨.enumeration _ rfl, rfl, rfl⟩⟩

end PrismaZod
