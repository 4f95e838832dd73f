import PrismaZod.Json.Number

/-!
# Characters of numbers

Whatever number it is of, the text of a JSON number holds only digits, the
point, the mark of an exponent and signs.
-/

namespace PrismaZod

/-- What a number is written with. -/
def isNumberChar (c : Char) : Bool :=
  c.isDigit || c == '.' || c == 'e' || c == '+' || c == '-'

/-- Only characters of numbers. -/
def IsNumeric (chars : List Char) : Prop :=
  ∀ c ∈ chars, isNumberChar c = true

@[simp]
theorem isNumeric_nil : IsNumeric [] := by
  intro c member
  cases member

theorem isNumeric_append {first second : List Char} :
    IsNumeric (first ++ second) ↔ IsNumeric first ∧ IsNumeric second := by
  simp [IsNumeric, or_imp, forall_and]

theorem isNumeric_cons {c : Char} {chars : List Char} :
    IsNumeric (c :: chars) ↔ isNumberChar c = true ∧ IsNumeric chars := by
  simp [IsNumeric]

theorem IsNumeric.mono {first second : List Char} (numeric : IsNumeric second)
    (within : ∀ c ∈ first, c ∈ second) : IsNumeric first :=
  fun c member => numeric c (within c member)

theorem isNumeric_toDigits (number : Nat) : IsNumeric (Nat.toDigits 10 number) := by
  intro c member
  have digit : c.isDigit = true := Nat.isDigit_of_mem_toDigits (by decide) (by decide) member
  simp [isNumberChar, digit]

theorem isNumeric_zeros (count : Nat) : IsNumeric (List.replicate count '0') := by
  intro c member
  rw [List.eq_of_mem_replicate member]
  decide

namespace FloatLayout

theorem isNumeric_places {digits : List Char} (numeric : IsNumeric digits)
    (beforePoint : Int) : IsNumeric (places digits beforePoint) := by
  unfold places
  split
  · simp only [isNumeric_cons, isNumeric_append]
    exact ⟨by decide, by decide, isNumeric_zeros _, numeric⟩
  · split
    · simp only [isNumeric_append]
      exact ⟨⟨numeric, isNumeric_zeros _⟩, List.all_eq_true.mp (by decide)⟩
    · simp only [isNumeric_append, isNumeric_cons]
      exact ⟨numeric.mono fun _ => List.mem_of_mem_take, by decide,
        numeric.mono fun _ => List.mem_of_mem_drop⟩

theorem isNumeric_scientific {digits : List Char} (numeric : IsNumeric digits)
    (power : Int) : IsNumeric (scientific digits power) := by
  have fraction : IsNumeric (if digits.length ≤ 1 then [] else '.' :: digits.drop 1) := by
    split
    · exact isNumeric_nil
    · exact isNumeric_cons.mpr ⟨by decide, numeric.mono fun _ => List.mem_of_mem_drop⟩
  have sign : isNumberChar (if power < 0 then '-' else '+') = true := by
    split <;> decide
  simp only [scientific, isNumeric_append, isNumeric_cons]
  exact ⟨⟨numeric.mono fun _ => List.mem_of_mem_take, fraction⟩, by decide, sign,
    isNumeric_toDigits _⟩

theorem isNumeric_magnitudeText (layout : FloatLayout) (magnitude : Magnitude) :
    IsNumeric (layout.magnitudeText magnitude) := by
  unfold magnitudeText
  split
  · exact List.all_eq_true.mp (by decide)
  · have digits (number : Nat) :
        IsNumeric ((Nat.toDigits 10 number).reverse.dropWhile (· == '0')).reverse :=
      (isNumeric_toDigits number).mono fun c member => by
        simpa using (List.dropWhile_sublist _).subset (List.mem_reverse.mp member)
    have either {chars : List Char} (numeric : IsNumeric chars) (allPlaces : Bool)
        (beforePoint power : Int) :
        IsNumeric (if allPlaces then places chars beforePoint else scientific chars power) := by
      cases allPlaces
      · exact isNumeric_scientific numeric power
      · exact isNumeric_places numeric beforePoint
    exact either (digits _) _ _ _

end FloatLayout

/-- The text of a number holds only characters of numbers. -/
theorem Number.isNumeric_text (number : Number) : IsNumeric number.text.toList := by
  cases number with
  | integer value =>
      cases value with
      | ofNat count => simpa [text, Int.repr] using isNumeric_toDigits count
      | negSucc count =>
          simpa [text, Int.repr, isNumeric_cons] using
            ⟨by decide, isNumeric_toDigits (count + 1)⟩
  | float value =>
      have unsigned := FloatLayout.json.isNumeric_magnitudeText value.magnitude
      simp only [text, FloatLayout.text, String.toList_ofList]
      split
      · exact isNumeric_cons.mpr ⟨by decide, unsigned⟩
      · exact unsigned

end PrismaZod
