import PrismaZod.Proofs.Decimal.Nearest
import PrismaZod.Proofs.Json.Integers
import PrismaZod.Proofs.Schema.Emission

/-!
# Big integers in scripts

The default of a big integer is written as a call of `BigInt` with its digits.  A
script takes digits without quotes for a double, so the call comes to the whole
number nearest to the default among those of doubles, which is the default itself
just when 53 significant bits suffice for it.  Digits in quotes would be read
exactly.
-/

namespace PrismaZod

open Text

namespace NumberLiteral

/-- The literal spells a whole number: it has neither a point nor a power. -/
def isWhole (literal : NumberLiteral) : Bool :=
  literal.fraction.isEmpty && literal.power.isNone

def signed (literal : NumberLiteral) (magnitude : Nat) : Int :=
  if literal.negative then -magnitude else magnitude

/-- The whole number that is spelled. -/
def exactInt? (literal : NumberLiteral) : Option Int :=
  if literal.isWhole then some (literal.signed (digitsValue 10 literal.whole)) else none

/-- The whole number that a script takes the literal for: the double nearest to the
digits, negated by a minus. -/
def roundedInt? (literal : NumberLiteral) : Option Int :=
  let magnitude := Magnitude.nearest (digitsValue 10 literal.whole) 1
  if literal.isWhole && magnitude.isFinite then magnitude.whole?.map literal.signed else none

end NumberLiteral

namespace Script

/-- What `BigInt` makes of an argument: the text between quotes is read exactly, and
without quotes the argument is a number before. -/
def argument? : List Char → Option Int
  | '\'' :: rest =>
      if rest.getLast? = some '\'' then
        (NumberLiteral.ofChars? rest.dropLast).bind NumberLiteral.exactInt?
      else none
  | chars => (NumberLiteral.ofChars? chars).bind NumberLiteral.roundedInt?

/-- The big integer that an expression comes to, if it is a call of `BigInt`. -/
def bigInt? (source : String) : Option Int :=
  match source.toList with
  | 'B' :: 'i' :: 'g' :: 'I' :: 'n' :: 't' :: '(' :: rest =>
      if rest.getLast? = some ')' then argument? rest.dropLast else none
  | _ => none

theorem bigInt?_source (text : String) :
    bigInt? (Literal.bigInt text).source = argument? text.toList := by
  simp [bigInt?, Literal.source]

end Script

/-- The value is a double nearest to a whole number. -/
structure NearestDouble (number value : Int) : Prop where
  double : IsDouble value.natAbs
  nearest : ∀ other : Int, IsDouble other.natAbs →
    (value - number).natAbs ≤ (other - number).natAbs

namespace NearestDouble

variable {number value : Int}

/-- The nearest double is the number itself just when this is a double. -/
theorem eq_iff (near : NearestDouble number value) :
    value = number ↔ IsDouble number.natAbs := by
  constructor
  · rintro rfl
    exact near.double
  · intro double
    have closest := near.nearest number double
    omega

end NearestDouble

namespace NumberLiteral

theorem signed_ofInt (value : Int) (magnitude : Nat) :
    (ofInt value).signed magnitude = if value < 0 then -(magnitude : Int) else magnitude := by
  simp [signed, ofInt]

theorem digitsValue_ofInt (value : Int) :
    digitsValue 10 (ofInt value).whole = value.natAbs :=
  foldl_decimalDigits value.natAbs

theorem exactInt?_ofInt (value : Int) : (ofInt value).exactInt? = some value := by
  have whole : (ofInt value).isWhole = true := rfl
  rw [exactInt?, if_pos whole, digitsValue_ofInt, signed_ofInt]
  congr 1
  split <;> omega

/-- A script takes the digits of a whole number for the nearest double. -/
theorem exists_roundedInt?_ofInt {number : Int} (fits : number.natAbs < 2 ^ 64) :
    ∃ value, (ofInt number).roundedInt? = some value ∧ NearestDouble number value := by
  have whole : (ofInt number).isWhole = true := rfl
  refine ⟨(ofInt number).signed (Magnitude.roundWhole number.natAbs), ?_, ?_⟩
  · rw [roundedInt?, digitsValue_ofInt, whole, Magnitude.isFinite_nearest fits,
      Magnitude.whole?_nearest]
    rfl
  · have same : ((ofInt number).signed (Magnitude.roundWhole number.natAbs)).natAbs =
        Magnitude.roundWhole number.natAbs := by
      rw [signed_ofInt]
      split <;> omega
    constructor
    case double =>
      rw [same]
      exact Magnitude.isDouble_roundWhole number.natAbs
    case nearest =>
      intro other double
      have closest := Magnitude.distance_roundWhole_le number.natAbs double
      rw [signed_ofInt]
      unfold distance at closest
      split <;> omega

end NumberLiteral

namespace Script

theorem argument?_repr (number : Int) :
    argument? number.repr.toList = (NumberLiteral.ofInt number).roundedInt? := by
  have spelled := NumberLiteral.ofChars?_repr number
  rw [argument?]
  · rw [spelled]
    rfl
  · intro rest quoted
    rw [quoted] at spelled
    cases spelled

/-- With quotes around its digits every whole number is kept. -/
theorem bigInt?_quoted (number : Int) :
    bigInt? (Literal.bigInt ("'" ++ number.repr ++ "'")).source = some number := by
  rw [bigInt?_source]
  simp [argument?, NumberLiteral.ofChars?_repr, NumberLiteral.exactInt?_ofInt]

end Script

/-- The default of a big integer within 64 bits is written as an expression that comes
to a nearest double, and to the default itself just when this is a double.  With
quotes around the digits it would always come to the default. -/
theorem bigInt_default_value (field : Field) (coerceDate : Bool) (number : Int)
    (type : field.type = Scalar.bigInt.name) (noRelation : field.relation? = none)
    (given : field.default? = some (.string number.repr))
    (least : -(2 ^ 63) ≤ number) (greatest : number ≤ 2 ^ 63 - 1) :
    ∃ base literal value, field.baseValidator coerceDate = .ok base ∧
      field.emit coerceDate = .ok ⟨⟨field.name, .withDefault (field.wrap base) literal⟩, none⟩ ∧
      Script.bigInt? literal.source = some value ∧ NearestDouble number value ∧
      (value = number ↔ IsDouble number.natAbs) ∧
      Script.bigInt? (Literal.bigInt ("'" ++ number.repr ++ "'")).source = some number := by
  have emitted : field.IsEmitted := ⟨noRelation, .inr (by rw [type]; decide)⟩
  obtain ⟨base, found⟩ := Field.exists_baseValidator emitted coerceDate
  have emits := Field.emit_of_default noRelation found given
  have isLiteral : Literal.ofDefault field.type (.string number.repr) =
      .ok (.bigInt number.repr) := by
    rw [type]
    rfl
  rw [isLiteral] at emits
  obtain ⟨value, rounded, near⟩ :=
    NumberLiteral.exists_roundedInt?_ofInt (by omega : number.natAbs < 2 ^ 64)
  refine ⟨base, .bigInt number.repr, value, found, emits, ?_, near, near.eq_iff,
    Script.bigInt?_quoted number⟩
  rw [Script.bigInt?_source, Script.argument?_repr, rounded]

/-- The least default of 64 bits, which is a double. -/
theorem bigInt_default_value_least :
    let number : Int := -(2 ^ 63)
    let field := (Field.scalar "balance" "BigInt").withDefault (.string number.repr)
    (field.type = Scalar.bigInt.name ∧ field.relation? = none ∧
      field.default? = some (.string number.repr) ∧ -(2 ^ 63) ≤ number ∧
      number ≤ 2 ^ 63 - 1) ∧
    ∃ base literal value, field.baseValidator true = .ok base ∧
      field.emit true = .ok ⟨⟨field.name, .withDefault (field.wrap base) literal⟩, none⟩ ∧
      Script.bigInt? literal.source = some value ∧ NearestDouble number value ∧
      (value = number ↔ IsDouble number.natAbs) ∧
      Script.bigInt? (Literal.bigInt ("'" ++ number.repr ++ "'")).source = some number := by
  intro number field
  exact ⟨⟨rfl, rfl, rfl, by decide, by decide⟩,
    bigInt_default_value field true number rfl rfl rfl (by decide) (by decide)⟩

/-- The default `2 ^ 53 + 1` is written as an expression that comes to `2 ^ 53`; with
quotes around its digits it would be kept. -/
theorem bigInt_default_rounded :
    let field := (Field.scalar "balance" "BigInt").withDefault (.string "9007199254740993")
    field.emit true =
        .ok ⟨⟨"balance", .withDefault .bigInt (.bigInt "9007199254740993")⟩, none⟩ ∧
      (Literal.bigInt "9007199254740993").source = "BigInt(9007199254740993)" ∧
      Script.bigInt? "BigInt(9007199254740993)" = some 9007199254740992 ∧
      Script.bigInt? "BigInt('9007199254740993')" = some 9007199254740993 := by
  exact ⟨rfl, by decide, by decide +kernel, by decide +kernel⟩

end PrismaZod
