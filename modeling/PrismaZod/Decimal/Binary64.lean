/-!
# Nearest doubles

A finite magnitude of the 64-bit binary format is a significand below `2 ^ 53`
times a power of two that is at least `2 ^ (-1074)`.  Here such magnitudes are
pairs of whole numbers, and rounding a quotient to the nearest of them is exact
arithmetic on natural numbers.
-/

namespace PrismaZod

/-- The whole number nearest to a quotient; a half goes to the even neighbour. -/
def roundQuotient (numerator denominator : Nat) : Nat :=
  let quotient := numerator / denominator
  let twice := 2 * (numerator % denominator)
  if twice < denominator then quotient
  else if denominator < twice then quotient + 1
  else quotient + quotient % 2

/-- The magnitude `significand * 2 ^ exponent`. -/
structure Magnitude where
  significand : Nat
  exponent : Int
deriving DecidableEq, Repr, Inhabited

namespace Magnitude

def leastExponent : Int := -1074

def greatestExponent : Int := 971

/-- Nothing. -/
def zero : Magnitude := ⟨0, leastExponent⟩

def isZero (magnitude : Magnitude) : Bool :=
  magnitude.significand == 0

/-- A magnitude past the largest exponent stands for infinity. -/
def isFinite (magnitude : Magnitude) : Bool :=
  decide (magnitude.exponent ≤ greatestExponent)

/-- Multiply a quotient by a power of a base, which may be negative. -/
def scaleQuotient (base : Nat) (power : Int) (quotient : Nat × Nat) : Nat × Nat :=
  if 0 ≤ power then (quotient.1 * Nat.pow base power.toNat, quotient.2)
  else (quotient.1, quotient.2 * Nat.pow base (-power).toNat)

def quotient (magnitude : Magnitude) : Nat × Nat :=
  scaleQuotient 2 magnitude.exponent (magnitude.significand, 1)

/-- The exponent at which a positive quotient has a significand of 53 bits,
or the least one if that is greater. -/
def fittingExponent (numerator denominator : Nat) : Int :=
  let guess : Int := (numerator.log2 : Int) - denominator.log2 - 53
  let scaled := scaleQuotient 2 (-guess) (numerator, denominator)
  let exponent := if scaled.2 * Nat.pow 2 53 ≤ scaled.1 then guess + 1 else guess
  max exponent leastExponent

/-- The magnitude nearest to a quotient; a half goes to the even significand.
A result past the largest exponent stands for infinity. -/
def nearest (numerator denominator : Nat) : Magnitude :=
  if numerator = 0 then zero
  else
    let exponent := fittingExponent numerator denominator
    let scaled := scaleQuotient 2 (-exponent) (numerator, denominator)
    let significand := roundQuotient scaled.1 scaled.2
    if significand = Nat.pow 2 53 then ⟨Nat.pow 2 52, exponent + 1⟩ else ⟨significand, exponent⟩

def mul (left right : Magnitude) : Magnitude :=
  nearest (left.quotient.1 * right.quotient.1) (left.quotient.2 * right.quotient.2)

def div (left right : Magnitude) : Magnitude :=
  nearest (left.quotient.1 * right.quotient.2) (left.quotient.2 * right.quotient.1)

def powerOfTen (power : Nat) : Magnitude :=
  nearest (Nat.pow 10 power) 1

end Magnitude

/-- A finite double: a sign, which zero has too, and a magnitude. -/
structure Binary64 where
  negative : Bool
  magnitude : Magnitude
deriving DecidableEq, Repr, Inhabited

end PrismaZod
