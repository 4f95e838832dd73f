import Mathlib.Data.List.TakeWhile
import PrismaZod.Proofs.Json.Limits
import PrismaZod.Proofs.Json.Structure

/-!
# Whole numbers in texts

The decimal digits of a whole number do not start with a needless zero, and they
are collected in a word of 64 bits if the number fits one.  So the text of a
whole number is read as this number.
-/

namespace PrismaZod

open Text

/-- The values of the decimal digits of a number. -/
def decimalDigits (number : Nat) : List Nat :=
  (Nat.toDigits 10 number).map digitValue

theorem takeDigits_toDigits (number : Nat) :
    takeDigits (Nat.toDigits 10 number) = (decimalDigits number, []) := by
  have digits : ∀ c ∈ Nat.toDigits 10 number, c.isDigit = true := fun c member =>
    Nat.isDigit_of_mem_toDigits (by decide) (by decide) member
  rw [takeDigits, List.takeWhile_eq_self_iff.mpr digits, List.dropWhile_eq_nil_iff.mpr digits,
    decimalDigits]

theorem foldl_decimalDigits (number : Nat) :
    (decimalDigits number).foldl (fun value digit => value * 10 + digit) 0 = number := by
  have value : Nat.ofDigitChars 10 (Nat.toDigits 10 number) 0 = number :=
    Nat.ofDigitChars_ten_toDigits
  rw [Nat.ofDigitChars_eq_foldl] at value
  rw [decimalDigits, List.foldl_map]
  simpa only [digitValue, Nat.mul_comm] using value

theorem decimalDigits_of_lt {number : Nat} (small : number < 10) :
    decimalDigits number = [number] := by
  have each : ∀ number < 10, digitValue (Nat.digitChar number) = number := by decide
  rw [decimalDigits, Nat.toDigits_of_lt_base small, List.map_singleton, each number small]

/-- A number of several digits does not start with zero. -/
theorem exists_decimalDigits_cons {number : Nat} (positive : 0 < number) :
    ∃ first rest, decimalDigits number = first :: rest ∧ first ≠ 0 := by
  induction number using Nat.strongRecOn with
  | ind number ih =>
      by_cases small : number < 10
      · exact ⟨number, [], decimalDigits_of_lt small, Nat.ne_of_gt positive⟩
      · obtain ⟨first, rest, digits, notZero⟩ := ih (number / 10) (by omega) (by omega)
        have split := Nat.toDigits_of_base_le (by decide : 1 < 10) (Nat.le_of_not_lt small)
        refine ⟨first, rest ++ [digitValue (number % 10).digitChar], ?_, notZero⟩
        rw [decimalDigits, split, List.map_append, ← decimalDigits, digits]
        rfl

namespace NumberLiteral

/-- The spelling of a whole number. -/
def ofInt (value : Int) : NumberLiteral :=
  ⟨decide (value < 0), decimalDigits value.natAbs, [], none⟩

theorem takeWhole_toDigits (number : Nat) :
    takeWhole (Nat.toDigits 10 number) = some (decimalDigits number, []) := by
  rw [takeWhole, takeDigits_toDigits]
  rcases Nat.eq_zero_or_pos number with rfl | positive
  · rw [decimalDigits_of_lt (by decide)]
    rfl
  · obtain ⟨first, rest, digits, notZero⟩ := exists_decimalDigits_cons positive
    rw [digits]
    cases first with
    | zero => exact (notZero rfl).elim
    | succ first => rfl

theorem ofChars?_repr (value : Int) :
    ofChars? value.repr.toList = some (ofInt value) := by
  cases value with
  | ofNat number =>
      have chars : (Int.ofNat number).repr.toList = Nat.toDigits 10 number := by
        simp [Int.repr]
      have unsigned : ∀ rest, Nat.toDigits 10 number ≠ '-' :: rest := by
        intro rest equal
        have minus : '-' ∈ Nat.toDigits 10 number := by
          rw [equal]
          exact List.mem_cons_self
        have digit := Nat.isDigit_of_mem_toDigits (by decide) (by decide) minus
        cases digit
      rw [chars, ofChars?]
      · simp [takeWhole_toDigits, takeFraction, takePower, ofInt]
      · exact unsigned
  | negSucc number =>
      have chars : (Int.negSucc number).repr.toList = '-' :: Nat.toDigits 10 (number + 1) := by
        simp [Int.repr]
      rw [chars, ofChars?]
      simp [takeWhole_toDigits, takeFraction, takePower, ofInt]

/-- Digits are collected as long as the number they make fits. -/
theorem collect_eq {word : Nat} {digits : List Nat}
    (fits : digits.foldl (fun value digit => value * 10 + digit) word < 2 ^ 64) :
    collect word digits =
      (digits.foldl (fun value digit => value * 10 + digit) word, []) := by
  have grows (digits : List Nat) (word : Nat) :
      word ≤ digits.foldl (fun value digit => value * 10 + digit) word := by
    induction digits generalizing word with
    | nil => exact Nat.le_refl word
    | cons digit digits ih =>
        have next := ih (word * 10 + digit)
        rw [List.foldl_cons]
        omega
  induction digits generalizing word with
  | nil => rfl
  | cons digit digits ih =>
      rw [List.foldl_cons] at fits ⊢
      have bounded := grows digits (word * 10 + digit)
      have limit : Nat.pow 2 64 = 2 ^ 64 := rfl
      rw [collect, if_pos (by omega), ih fits]

theorem value?_ofInt {value : Int} (fits : (Number.integer value).Fits) :
    (ofInt value).value? = some (.integer value) := by
  obtain ⟨above, below⟩ := fits
  have number := foldl_decimalDigits value.natAbs
  have collected : collect 0 (decimalDigits value.natAbs) = (value.natAbs, []) := by
    rw [collect_eq (by omega), number]
  have limit : Nat.pow 2 63 = 2 ^ 63 := rfl
  rw [value?]
  simp only [ofInt, collected, List.isEmpty_nil, Option.isNone_none, Bool.and_self, if_true]
  by_cases negative : value < 0
  · have small : value.natAbs ≠ 0 ∧ value.natAbs ≤ Nat.pow 2 63 := by omega
    have same : -(value.natAbs : Int) = value := by omega
    rw [if_neg (by simpa using negative), if_pos small, same]
  · have same : (value.natAbs : Int) = value := by omega
    rw [if_pos (by simpa using negative), same]

end NumberLiteral

open Json in
theorem spelled_repr (value : Int) : Spelled value.repr (.number (.ofInt value)) := by
  have spelled := NumberLiteral.ofChars?_repr value
  have numeric (number : Nat) : ∀ c ∈ Nat.toDigits 10 number, c.isDigit = true := fun c member =>
    Nat.isDigit_of_mem_toDigits (by decide) (by decide) member
  refine ⟨[.number (.ofInt value)], ?_, builds_scalar rfl⟩
  cases chars : value.repr.toList with
  | nil =>
      rw [chars] at spelled
      cases spelled
  | cons first rest =>
      rw [chars] at spelled
      have opens : (first = '-' ∨ first.isDigit = true) ∧ ∀ c ∈ rest, c.isDigit = true := by
        cases value with
        | ofNat number =>
            have digits : Nat.toDigits 10 number = first :: rest := by
              simpa [Int.repr] using chars
            have all := numeric number
            rw [digits, List.forall_mem_cons] at all
            exact ⟨.inr all.1, all.2⟩
        | negSucc number =>
            have digits : '-' :: Nat.toDigits 10 (number + 1) = first :: rest := by
              simpa [Int.repr] using chars
            cases digits
            exact ⟨.inl rfl, numeric (number + 1)⟩
      refine spells_number opens.1 (fun c member => ?_) spelled
      simp [Scan.isNumberChar, opens.2 c member]

end PrismaZod
