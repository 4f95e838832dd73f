import PrismaZod.Decimal.Layout
import PrismaZod.Text.Digit

/-!
# JSON numbers

A number is a whole number that fits 64 bits, or else a double.

Reading a double from its digits goes through two roundings: the digits are
collected in a 64-bit word as far as they fit, the word is rounded to a double,
and this is then multiplied or divided by a rounded power of ten.  Digits that
no longer fit the word only move the point.
-/

namespace PrismaZod

/-- A JSON number. -/
inductive Number
  | integer (value : Int)
  | float (value : Binary64)
deriving DecidableEq, Repr, Inhabited

/-- A number as it is spelled: a sign, digits, digits after the point (none
without a point), and a power of ten, whose flag says that it is negative. -/
structure NumberLiteral where
  negative : Bool
  whole : List Nat
  fraction : List Nat
  power : Option (Bool × List Nat)
deriving DecidableEq, Repr, Inhabited

namespace NumberLiteral

/-- The digits before the point; a zero stands there only alone. -/
def takeWhole (chars : List Char) : Option (List Nat × List Char) :=
  match Text.takeDigits chars with
  | ([], _) => none
  | (0 :: _ :: _, _) => none
  | found => some found

/-- A point with at least one digit, or nothing. -/
def takeFraction : List Char → Option (List Nat × List Char)
  | '.' :: rest =>
      match Text.takeDigits rest with
      | ([], _) => none
      | found => some found
  | rest => some ([], rest)

/-- The sign of a power of ten, if there is one. -/
def takeSign : List Char → Bool × List Char
  | '+' :: rest => (false, rest)
  | '-' :: rest => (true, rest)
  | rest => (false, rest)

/-- A power of ten with at least one digit, or nothing. -/
def takePower (chars : List Char) : Option (Option (Bool × List Nat) × List Char) :=
  match chars with
  | [] => some (none, [])
  | mark :: rest =>
      if mark = 'e' ∨ mark = 'E' then
        let (negative, digits) := takeSign rest
        match Text.takeDigits digits with
        | ([], _) => none
        | (found, after) => some (some (negative, found), after)
      else some (none, chars)

/-- The number that characters spell, if all of them together spell one. -/
def ofChars? (chars : List Char) : Option NumberLiteral := do
  let (negative, unsigned) := match chars with
    | '-' :: rest => (true, rest)
    | rest => (false, rest)
  let (whole, afterWhole) ← takeWhole unsigned
  let (fraction, afterFraction) ← takeFraction afterWhole
  let (power, afterPower) ← takePower afterFraction
  if afterPower.isEmpty then some ⟨negative, whole, fraction, power⟩ else none

/-- Collect digits as long as the word they make fits 64 bits; the rest of the
digits stays. -/
def collect (word : Nat) : List Nat → Nat × List Nat
  | [] => (word, [])
  | digit :: rest =>
      if word * 10 + digit < Nat.pow 2 64 then collect (word * 10 + digit) rest
      else (word, digit :: rest)

/-- Divide by `10 ^ 308` a number of times, or until nothing is left. -/
def divideOften : Nat → Magnitude → Magnitude
  | 0, magnitude => magnitude
  | times + 1, magnitude =>
      if magnitude.isZero then magnitude
      else divideOften times (magnitude.div (.powerOfTen 308))

/-- A word times a power of ten, if that is finite. Powers past `10 ^ 308`
have no double of their own: going up that is too much for all but zero, going
down it takes several divisions. -/
def scaleWord (word : Nat) (power : Int) : Option Magnitude :=
  let rounded := Magnitude.nearest word 1
  if power ≤ 308 then
    if 0 ≤ power then
      let product := rounded.mul (.powerOfTen power.toNat)
      if product.isFinite then some product else none
    else
      let down := power.natAbs
      let times := (down - 1) / 308
      some ((divideOften times rounded).div (.powerOfTen (down - 308 * times)))
  else if rounded.isZero then some rounded
  else none

/-- The largest power of ten that is looked at; beyond it only its sign counts. -/
def greatestPower : Nat := Nat.pow 2 31 - 1

/-- The double that a spelling with point, power or too many digits is read
as, if it is finite. -/
def magnitude? (literal : NumberLiteral) : Option Magnitude :=
  let (integral, overWhole) := collect 0 literal.whole
  let (word, overFraction) :=
    if literal.fraction.isEmpty then (integral, []) else collect integral literal.fraction
  let shift : Int :=
    (overWhole.length : Int) - (literal.fraction.length - overFraction.length : Nat)
  match literal.power with
  | none => scaleWord word shift
  | some (negative, digits) =>
      let power := Text.digitsValue 10 digits
      if greatestPower < power then
        if word ≠ 0 ∧ negative = false then none else some .zero
      else scaleWord word (if negative then shift - power else shift + power)

/-- The number that a spelling stands for, if it is finite. Whole numbers stay
whole when they fit a signed or an unsigned 64-bit word; minus zero is a
double, since whole numbers have only one zero. -/
def value? (literal : NumberLiteral) : Option Number :=
  let whole := collect 0 literal.whole
  let double := literal.magnitude?.map fun magnitude =>
    Number.float ⟨literal.negative, magnitude⟩
  if literal.fraction.isEmpty && literal.power.isNone && whole.2.isEmpty then
    if literal.negative = false then some (.integer whole.1)
    else if whole.1 ≠ 0 ∧ whole.1 ≤ Nat.pow 2 63 then some (.integer (-(whole.1 : Int)))
    else double
  else double

end NumberLiteral

def Number.text : Number → String
  | .integer value => value.repr
  | .float value => FloatLayout.json.text value

end PrismaZod
