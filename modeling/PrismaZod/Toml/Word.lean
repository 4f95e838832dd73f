import PrismaZod.Toml.Basic

/-!
# TOML values without quotes

A value that is no string, array or table is one word, except that a blank may
stand between a date and a time of day.  Underscores may stand between digits,
and only there.
-/

namespace PrismaZod.Toml

def isWordChar (c : Char) : Bool :=
  c.isAlphanum || c == '+' || c == '-' || c == '_' || c == '.' || c == ':'

/-- The digits of a number, without the underscores between them. -/
def digits? (isDigit : Char → Bool) : List Char → Option (List Char)
  | [] => none
  | [last] => if isDigit last then some [last] else none
  | first :: second :: rest =>
      if isDigit first then
        if second = '_' then (digits? isDigit rest).map (first :: ·)
        else (digits? isDigit (second :: rest)).map (first :: ·)
      else none

def natural? (base : Nat) (chars : List Char) : Option Nat := do
  let digits ← digits? (fun c => (Text.hexValue? c).any (· < base)) chars
  let values ← digits.mapM Text.hexValue?
  some (Text.digitsValue base values)

/-- The decimal digits of a whole number; a zero stands in front only alone. -/
def wholeDigits? (chars : List Char) : Option (List Char) :=
  if chars.head? = some '0' ∧ chars.length ≠ 1 then none else digits? Char.isDigit chars

/-- Split off a sign; its flag says that it is a minus. -/
def splitSign (chars : List Char) : Bool × List Char :=
  match chars with
  | '+' :: rest => (false, rest)
  | '-' :: rest => (true, rest)
  | _ => (false, chars)

def withSign (negative : Bool) (number : Nat) : Int :=
  if negative then -(number : Int) else number

def leastInteger : Int := -9223372036854775808

def greatestInteger : Int := 9223372036854775807

def integer? (word : List Char) : Option Int := do
  let number ← match word with
    | '0' :: 'x' :: rest => (natural? 16 rest).map Int.ofNat
    | '0' :: 'o' :: rest => (natural? 8 rest).map Int.ofNat
    | '0' :: 'b' :: rest => (natural? 2 rest).map Int.ofNat
    | _ =>
        let (negative, unsigned) := splitSign word
        let digits ← wholeDigits? unsigned
        pure (withSign negative (Text.digitsValue 10 (digits.map Text.digitValue)))
  if leastInteger ≤ number ∧ number ≤ greatestInteger then some number else none

/-- The magnitude nearest to digits times a power of ten. Far beyond the
magnitudes there are the power need not be worked out. -/
def scaled (digits : Nat) (power : Int) : Magnitude :=
  let place : Int := (Nat.toDigits 10 digits).length + power
  if digits = 0 ∨ place < -400 then .zero
  else if 400 < place then ⟨1, Magnitude.greatestExponent + 1⟩
  else Decimal.nearest ⟨digits, power⟩

/-- The digits after a point; without a point there are none. -/
def fraction? (chars : List Char) : Option (List Char × List Char) :=
  match chars with
  | '.' :: rest => do
      let isPart := fun (c : Char) => c.isDigit || c == '_'
      let digits ← digits? Char.isDigit (rest.takeWhile isPart)
      some (digits, rest.dropWhile isPart)
  | _ => some ([], chars)

/-- The power of ten at the end of a number. -/
def power? (chars : List Char) : Option Int :=
  match chars with
  | [] => some 0
  | mark :: rest =>
      if mark = 'e' ∨ mark = 'E' then do
        let (negative, unsigned) := splitSign rest
        let digits ← digits? Char.isDigit unsigned
        some (withSign negative (Text.digitsValue 10 (digits.map Text.digitValue)))
      else none

/-- A double with a point or a power of ten. One that is too large is infinite
below zero and refused above. -/
def decimal? (word : List Char) : Option Double := do
  let (negative, unsigned) := splitSign word
  let isPart := fun (c : Char) => c.isDigit || c == '_'
  let whole ← wholeDigits? (unsigned.takeWhile isPart)
  let afterWhole := unsigned.dropWhile isPart
  if afterWhole.isEmpty then none
  else
    let (fraction, afterFraction) ← fraction? afterWhole
    let power ← power? afterFraction
    let digits := Text.digitsValue 10 ((whole ++ fraction).map Text.digitValue)
    let magnitude := scaled digits (power - fraction.length)
    if magnitude.isFinite then some (.finite ⟨negative, magnitude⟩)
    else if negative then some (.infinite true)
    else none

def namedDouble? (word : List Char) : Option Double :=
  let (negative, unsigned) := splitSign word
  if unsigned = ['i', 'n', 'f'] then some (.infinite negative)
  else if unsigned = ['n', 'a', 'n'] then some .notANumber
  else none

def ofWord? (word : List Char) : Option Toml :=
  if word = ['t', 'r', 'u', 'e'] then some (.boolean true)
  else if word = ['f', 'a', 'l', 's', 'e'] then some (.boolean false)
  else
    ((DateTime.ofChars? .document word).map .dateTime).or <|
      ((integer? word).map .integer).or <|
        ((namedDouble? word).or (decimal? word)).map .double

/-- Take a word, with the time of day that may follow a date after a blank. -/
def takeWord (chars : List Char) : Option (Toml × List Char) :=
  let word := chars.takeWhile isWordChar
  let rest := chars.dropWhile isWordChar
  match Date.take word, rest with
  | some (_, []), ' ' :: digit :: more =>
      if digit.isDigit then do
        let time := (digit :: more).takeWhile isWordChar
        let value ← ofWord? (word ++ ' ' :: time)
        some (value, (digit :: more).dropWhile isWordChar)
      else (ofWord? word).map fun value => (value, rest)
  | _, _ => (ofWord? word).map fun value => (value, rest)

end PrismaZod.Toml
