import PrismaZod.Decimal.Binary64

/-!
# Shortest decimal digits

Among the decimals that round to a given double the shortest one is written,
and of several that are equally short the nearest.  On the grid of decimals
with a given number of digits only the two neighbours of the double need to be
tried: if any point of the grid rounds to it, one of these does.
-/

namespace PrismaZod

/-- Which of two neighbours is taken at equal distance. -/
inductive Tie
  | toEven
  | up
deriving DecidableEq, Repr

/-- The decimal `digits * 10 ^ exponent`. -/
structure Decimal where
  digits : Nat
  exponent : Int
deriving DecidableEq, Repr, Inhabited

namespace Decimal

def nearest (decimal : Decimal) : Magnitude :=
  let quotient := Magnitude.scaleQuotient 10 decimal.exponent (decimal.digits, 1)
  Magnitude.nearest quotient.1 quotient.2

end Decimal

namespace Magnitude

/-- The power of ten of the first digit of a positive quotient. -/
def leadingExponent (quotient : Nat × Nat) : Int :=
  let guess : Int :=
    ((Nat.toDigits 10 quotient.1).length : Int) - (Nat.toDigits 10 quotient.2).length
  let scaled := scaleQuotient 10 (-guess) quotient
  if scaled.2 ≤ scaled.1 then guess else guess - 1

/-- The decimal on the grid of `10 ^ exponent` that reads back as the
magnitude and is nearest to it, if there is one. -/
def decimalAt (tie : Tie) (magnitude : Magnitude) (exponent : Int) : Option Decimal :=
  let scaled := scaleQuotient 10 (-exponent) magnitude.quotient
  let below := scaled.1 / scaled.2
  let twice := 2 * (scaled.1 % scaled.2)
  let lowerFirst :=
    decide (twice < scaled.2) ||
      (decide (twice = scaled.2) && decide (tie = .toEven) && below % 2 == 0)
  let inOrder := if lowerFirst then [below, below + 1] else [below + 1, below]
  (inOrder.map (Decimal.mk · exponent)).find? (·.nearest == magnitude)

/-- The shortest decimal that reads back as a positive magnitude. Seventeen
digits always suffice. -/
def shortest (tie : Tie) (magnitude : Magnitude) : Decimal :=
  let leading := leadingExponent magnitude.quotient
  let tried := (List.range 17).findSome? fun (count : Nat) =>
    decimalAt tie magnitude (leading - count)
  tried.getD ⟨magnitude.quotient.1 / magnitude.quotient.2, 0⟩

end Magnitude

end PrismaZod
