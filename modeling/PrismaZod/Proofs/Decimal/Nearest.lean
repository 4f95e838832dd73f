import Mathlib.Algebra.Group.Int.Defs
import Mathlib.Algebra.Group.Nat.Defs
import PrismaZod.Decimal.Binary64

/-!
# Doubles nearest to whole numbers

A whole number is that of a double if 53 significant bits suffice for it.  The
magnitude nearest to a whole number is a whole number again; it is one of these,
and no other of them is nearer.
-/

namespace PrismaZod

/-- A whole number with at most 53 significant bits. -/
def IsDouble (number : Nat) : Prop :=
  ∃ significand power, significand < 2 ^ 53 ∧ number = significand * 2 ^ power

/-- How far a whole number is from another one. -/
def distance (first second : Nat) : Nat :=
  ((first : Int) - second).natAbs

theorem roundQuotient_one (number : Nat) : roundQuotient number 1 = number := by
  simp [roundQuotient, Nat.mod_one]

theorem roundQuotient_cases (numerator denominator : Nat) :
    (roundQuotient numerator denominator = numerator / denominator ∧
      2 * (numerator % denominator) ≤ denominator) ∨
    (roundQuotient numerator denominator = numerator / denominator + 1 ∧
      denominator ≤ 2 * (numerator % denominator)) := by
  unfold roundQuotient
  dsimp only
  split
  · exact .inl ⟨rfl, by omega⟩
  · split
    · exact .inr ⟨rfl, by omega⟩
    · rcases Nat.mod_two_eq_zero_or_one (numerator / denominator) with even | odd
      · exact .inl ⟨by omega, by omega⟩
      · exact .inr ⟨by omega, by omega⟩

/-- A rounded quotient gives a multiple of the denominator that is nearest to the
numerator. -/
theorem distance_roundQuotient_le {denominator : Nat} (positive : 0 < denominator)
    (numerator factor : Nat) :
    distance (roundQuotient numerator denominator * denominator) numerator ≤
      distance (factor * denominator) numerator := by
  have whole := Nat.div_add_mod numerator denominator
  have small := Nat.mod_lt numerator positive
  rw [Nat.mul_comm] at whole
  -- No multiple lies between the two next to the numerator.
  have outside : factor * denominator ≤ numerator / denominator * denominator ∨
      numerator / denominator * denominator + denominator ≤ factor * denominator := by
    rcases Nat.lt_or_ge (numerator / denominator) factor with above | below
    · have larger := Nat.mul_le_mul_right denominator above
      rw [Nat.succ_mul] at larger
      exact .inr larger
    · exact .inl (Nat.mul_le_mul_right denominator below)
  unfold distance
  rcases roundQuotient_cases numerator denominator with ⟨rounded, near⟩ | ⟨rounded, near⟩
  · rw [rounded]
    omega
  · rw [rounded, Nat.succ_mul]
    omega

namespace Magnitude

/-- The last place of the doubles next to a whole number. -/
def unit (number : Nat) : Nat :=
  2 ^ (number.log2 - 52)

/-- The whole number nearest to a whole number among those of doubles. -/
def roundWhole (number : Nat) : Nat :=
  roundQuotient number (unit number) * unit number

theorem unit_pos (number : Nat) : 0 < unit number :=
  Nat.pow_pos (by decide)

theorem unit_of_small {number : Nat} (small : number.log2 ≤ 52) : unit number = 1 := by
  rw [unit, Nat.sub_eq_zero_of_le small, Nat.pow_zero]

theorem isDouble_roundWhole (number : Nat) : IsDouble (roundWhole number) := by
  have below : number < 2 ^ (number.log2 + 1) := Nat.lt_log2_self
  by_cases small : number.log2 ≤ 52
  · have fits : number < 2 ^ 53 :=
      Nat.lt_of_lt_of_le below (Nat.pow_le_pow_right (by decide) (by omega))
    exact ⟨number, 0, fits, by
      rw [roundWhole, unit_of_small small, roundQuotient_one, Nat.pow_zero]⟩
  · have quotient : number / unit number < 2 ^ 53 := by
      rw [Nat.div_lt_iff_lt_mul (unit_pos number), unit, ← Nat.pow_add]
      have power : 53 + (number.log2 - 52) = number.log2 + 1 := by omega
      rwa [power]
    have atMost : roundQuotient number (unit number) ≤ 2 ^ 53 := by
      rcases roundQuotient_cases number (unit number) with ⟨rounded, -⟩ | ⟨rounded, -⟩ <;> omega
    by_cases carries : roundQuotient number (unit number) = 2 ^ 53
    · refine ⟨1, 53 + (number.log2 - 52), by decide, ?_⟩
      rw [roundWhole, carries, unit, Nat.pow_add, Nat.one_mul]
    · exact ⟨_, _, by omega, rfl⟩

/-- No whole number of a double is nearer. -/
theorem distance_roundWhole_le (number : Nat) {other : Nat} (double : IsDouble other) :
    distance (roundWhole number) number ≤ distance other number := by
  obtain ⟨significand, power, bounded, rfl⟩ := double
  by_cases coarse : number.log2 - 52 ≤ power
  · -- The other one is a multiple of the last place too.
    have multiple : significand * 2 ^ power =
        significand * 2 ^ (power - (number.log2 - 52)) * unit number := by
      rw [unit, Nat.mul_assoc, ← Nat.pow_add, Nat.sub_add_cancel coarse]
    rw [multiple]
    exact distance_roundQuotient_le (unit_pos number) number _
  · -- The other one is below the power of two at which the last place changes.
    have positive : number ≠ 0 := by
      rintro rfl
      exact coarse (Nat.zero_le _)
    have reached : 2 ^ number.log2 ≤ number := Nat.log2_self_le positive
    have change : 2 ^ 52 * unit number = 2 ^ number.log2 := by
      rw [unit, ← Nat.pow_add]
      congr 1
      omega
    have below : significand * 2 ^ power < 2 ^ number.log2 := by
      have total : 53 + power ≤ number.log2 := by omega
      calc significand * 2 ^ power < 2 ^ 53 * 2 ^ power :=
            Nat.mul_lt_mul_of_pos_right bounded (Nat.pow_pos (by decide))
        _ = 2 ^ (53 + power) := (Nat.pow_add 2 53 power).symm
        _ ≤ 2 ^ number.log2 := Nat.pow_le_pow_right (by decide) total
    have nearest := distance_roundQuotient_le (unit_pos number) number (2 ^ 52)
    rw [change] at nearest
    refine Nat.le_trans nearest ?_
    unfold distance
    omega

/-- The whole number that a magnitude is, if it is one. -/
def whole? (magnitude : Magnitude) : Option Nat :=
  if magnitude.quotient.1 % magnitude.quotient.2 = 0 then
    some (magnitude.quotient.1 / magnitude.quotient.2)
  else none

theorem scaleQuotient_sub (number above below : Nat) :
    scaleQuotient 2 ((above : Int) - below) (number, 1) =
      (number * 2 ^ (above - below), 2 ^ (below - above)) := by
  unfold scaleQuotient
  split
  · have noneBelow : below - above = 0 := by omega
    have power : ((above : Int) - below).toNat = above - below := by omega
    rw [noneBelow, power]
    rfl
  · have noneAbove : above - below = 0 := by omega
    have power : (-((above : Int) - below)).toNat = below - above := by omega
    rw [noneAbove, power]
    simp

theorem fittingExponent_one {number : Nat} (positive : number ≠ 0) :
    fittingExponent number 1 = (number.log2 : Int) - 52 := by
  have reached : 2 ^ number.log2 ≤ number := Nat.log2_self_le positive
  have one : Nat.log2 1 = 0 := by decide
  have guess : -((number.log2 : Int) - (0 : Nat) - 53) = ((53 : Nat) : Int) - number.log2 := by
    omega
  unfold fittingExponent
  dsimp only
  rw [one, guess, scaleQuotient_sub]
  have enough : 2 ^ (number.log2 - 53) * Nat.pow 2 53 ≤ number * 2 ^ (53 - number.log2) := by
    calc 2 ^ (number.log2 - 53) * 2 ^ 53
        = 2 ^ number.log2 * 2 ^ (53 - number.log2) := by
          rw [← Nat.pow_add, ← Nat.pow_add]
          congr 1
          omega
      _ ≤ number * 2 ^ (53 - number.log2) := Nat.mul_le_mul_right _ reached
  rw [if_pos enough, leastExponent]
  omega

/-- The significand of a magnitude that is nearest to a whole number, before a carry. -/
def significandOf (number : Nat) : Nat :=
  roundQuotient (number * 2 ^ (52 - number.log2)) (unit number)

theorem nearest_one {number : Nat} (positive : number ≠ 0) :
    nearest number 1 =
      if significandOf number = 2 ^ 53 then ⟨2 ^ 52, ((number.log2 + 1 : Nat) : Int) - (52 : Nat)⟩
      else ⟨significandOf number, (number.log2 : Int) - (52 : Nat)⟩ := by
  have power : -((number.log2 : Int) - 52) = ((52 : Nat) : Int) - number.log2 := by omega
  have carried : (number.log2 : Int) - 52 + 1 = ((number.log2 + 1 : Nat) : Int) - (52 : Nat) := by
    omega
  rw [nearest, if_neg positive]
  dsimp only
  rw [fittingExponent_one positive, power, scaleQuotient_sub, carried]
  rfl

theorem isFinite_nearest {number : Nat} (fits : number < 2 ^ 64) :
    (nearest number 1).isFinite = true := by
  by_cases positive : number = 0
  · subst positive
    decide +kernel
  · have small : number.log2 < 64 := (Nat.log2_lt positive).mpr fits
    rw [nearest_one positive, isFinite, decide_eq_true_eq, greatestExponent]
    split
    · dsimp only
      omega
    · dsimp only
      omega

theorem significandOf_small {number : Nat} (small : number.log2 ≤ 52) :
    significandOf number = number * 2 ^ (52 - number.log2) := by
  rw [significandOf, unit_of_small small, roundQuotient_one]

theorem significandOf_large {number : Nat} (large : 52 < number.log2) :
    significandOf number = roundQuotient number (unit number) := by
  rw [significandOf, Nat.sub_eq_zero_of_le (Nat.le_of_lt large), Nat.pow_zero, Nat.mul_one]

theorem whole?_scaled (significand above below : Nat) {number : Nat}
    (scaled : significand * 2 ^ (above - below) = number * 2 ^ (below - above)) :
    (Magnitude.mk significand ((above : Int) - below)).whole? = some number := by
  have positive : 0 < 2 ^ (below - above) := Nat.pow_pos (by decide)
  rw [whole?, quotient, scaleQuotient_sub, scaled, if_pos (Nat.mul_mod_left _ _),
    Nat.mul_div_cancel _ positive]

/-- The magnitude nearest to a whole number is a whole number, rounded to what a
double can be. -/
theorem whole?_nearest (number : Nat) :
    (nearest number 1).whole? = some (roundWhole number) := by
  by_cases positive : number = 0
  · subst positive
    decide +kernel
  · have below : number < 2 ^ (number.log2 + 1) := Nat.lt_log2_self
    rw [nearest_one positive, roundWhole]
    by_cases small : number.log2 ≤ 52
    · have fits : number * 2 ^ (52 - number.log2) < 2 ^ 53 := by
        calc number * 2 ^ (52 - number.log2)
            < 2 ^ (number.log2 + 1) * 2 ^ (52 - number.log2) :=
              Nat.mul_lt_mul_of_pos_right below (Nat.pow_pos (by decide))
          _ = 2 ^ 53 := by
              rw [← Nat.pow_add]
              congr 1
              omega
      rw [significandOf_small small, if_neg (by omega), unit_of_small small, roundQuotient_one]
      apply whole?_scaled
      rw [Nat.sub_eq_zero_of_le small, Nat.pow_zero, Nat.mul_one, Nat.mul_one]
    · have large : 52 < number.log2 := Nat.lt_of_not_le small
      have noPlaces : 52 - number.log2 = 0 := Nat.sub_eq_zero_of_le (Nat.le_of_lt large)
      rw [significandOf_large large]
      split
      · rename_i carries
        have places : number.log2 + 1 - 52 = 1 + (number.log2 - 52) := by omega
        have noneBelow : 52 - (number.log2 + 1) = 0 := by omega
        have doubled : 2 ^ 52 * 2 ^ 1 = 2 ^ 53 := by decide
        apply whole?_scaled
        rw [carries, unit, places, noneBelow, Nat.pow_add, ← Nat.mul_assoc, doubled,
          Nat.pow_zero, Nat.mul_one]
      · apply whole?_scaled
        rw [noPlaces, unit, Nat.pow_zero, Nat.mul_one]

end Magnitude

end PrismaZod
