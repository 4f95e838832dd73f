import PrismaZod.Decimal.Shortest

/-!
# Texts of doubles

A double is written with its shortest digits, either with all its places and
always a point, or with one digit before the point and a signed power of ten.
Which form a format uses depends on the place of the first digit alone.
-/

namespace PrismaZod

/-- How a format writes doubles. -/
structure FloatLayout where
  /-- Which digits are taken when two are equally near. -/
  tie : Tie
  /-- The powers of ten of a first digit that are written with all places;
  without bounds every double is. -/
  positional : Option (Int × Int)
deriving DecidableEq, Repr

namespace FloatLayout

/-- JSON numbers are written with all places from `0.00001` to below `10 ^ 16`. -/
def json : FloatLayout := ⟨.toEven, some (-5, 15)⟩

/-- TOML numbers are always written with all places. -/
def toml : FloatLayout := ⟨.up, none⟩

/-- Digits and the number of them before the point, which may be negative,
written with all places. -/
def places (digits : List Char) (beforePoint : Int) : List Char :=
  if beforePoint ≤ 0 then
    '0' :: '.' :: (List.replicate (-beforePoint).toNat '0' ++ digits)
  else if digits.length ≤ beforePoint.toNat then
    digits ++ List.replicate (beforePoint.toNat - digits.length) '0' ++ ['.', '0']
  else
    digits.take beforePoint.toNat ++ '.' :: digits.drop beforePoint.toNat

/-- Digits with a power of ten for the first of them. -/
def scientific (digits : List Char) (power : Int) : List Char :=
  let fraction := if digits.length ≤ 1 then [] else '.' :: digits.drop 1
  let sign := if power < 0 then '-' else '+'
  digits.take 1 ++ fraction ++ 'e' :: sign :: Nat.toDigits 10 power.natAbs

def magnitudeText (layout : FloatLayout) (magnitude : Magnitude) : List Char :=
  if magnitude.isZero then ['0', '.', '0']
  else
    let decimal := magnitude.shortest layout.tie
    let written := Nat.toDigits 10 decimal.digits
    let beforePoint := decimal.exponent + written.length
    let digits := (written.reverse.dropWhile (· == '0')).reverse
    let power := beforePoint - 1
    let allPlaces := match layout.positional with
      | none => true
      | some (least, greatest) => decide (least ≤ power) && decide (power ≤ greatest)
    if allPlaces then places digits beforePoint else scientific digits power

def text (layout : FloatLayout) (double : Binary64) : String :=
  let unsigned := layout.magnitudeText double.magnitude
  String.ofList (if double.negative then '-' :: unsigned else unsigned)

end FloatLayout

end PrismaZod
