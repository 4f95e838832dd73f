/-!
# Digits

The numbers that decimal and hexadecimal digits stand for.
-/

namespace PrismaZod.Text

def digitValue (c : Char) : Nat :=
  c.toNat - '0'.toNat

def hexValue? (c : Char) : Option Nat :=
  if c.isDigit then some (digitValue c)
  else if 'a' ≤ c ∧ c ≤ 'f' then some (c.toNat - 'a'.toNat + 10)
  else if 'A' ≤ c ∧ c ≤ 'F' then some (c.toNat - 'A'.toNat + 10)
  else none

/-- Split off the decimal digits at the front. -/
def takeDigits (chars : List Char) : List Nat × List Char :=
  ((chars.takeWhile Char.isDigit).map digitValue, chars.dropWhile Char.isDigit)

def digitsValue (base : Nat) (digits : List Nat) : Nat :=
  digits.foldl (fun value digit => value * base + digit) 0

end PrismaZod.Text
