import Mathlib.Data.List.Basic

/-!
# Spans, words and joined lines

A span is a stretch of characters of one kind that ends where a character of
another kind follows.  Where a text is read from the left, its first span is
determined by the text.  Words, the names that a generated text is made of, are
spans; lists of pieces with a separator are a first piece and, for each of the
others, the separator and the piece.
-/

namespace PrismaZod.Text

section Spans

variable {kind : Char → Bool} {first second rest other : List Char}

/-- The first character, if there is one, is not of the kind. -/
def Leaves (kind : Char → Bool) (chars : List Char) : Prop :=
  ∀ c ∈ chars.head?, kind c = false

theorem leaves_cons {c : Char} (outside : kind c = false) : Leaves kind (c :: rest) := by
  simpa [Leaves] using outside

theorem takeWhile_span (inside : ∀ c ∈ first, kind c = true) (leaves : Leaves kind rest) :
    (first ++ rest).takeWhile kind = first := by
  rw [List.takeWhile_append_of_pos inside]
  cases rest with
  | nil => simp
  | cons c rest =>
      have outside : kind c = false := leaves c rfl
      simp [outside]

theorem dropWhile_span (inside : ∀ c ∈ first, kind c = true) (leaves : Leaves kind rest) :
    (first ++ rest).dropWhile kind = rest := by
  rw [List.dropWhile_append_of_pos inside]
  cases rest with
  | nil => rfl
  | cons c rest =>
      have outside : kind c = false := leaves c rfl
      rw [List.dropWhile_cons_of_neg (by simp [outside])]

theorem leaves_dropWhile (kind : Char → Bool) (chars : List Char) :
    Leaves kind (chars.dropWhile kind) := by
  intro c isHead
  have stopped := List.head?_dropWhile_not kind chars
  rwa [Option.mem_def.mp isHead] at stopped

/-- Two ways to read a text as a span and a rest are the same. -/
theorem span_unique (firstInside : ∀ c ∈ first, kind c = true)
    (secondInside : ∀ c ∈ second, kind c = true)
    (restLeaves : Leaves kind rest) (otherLeaves : Leaves kind other)
    (equal : first ++ rest = second ++ other) : first = second ∧ rest = other := by
  have same : first = second := by
    rw [← takeWhile_span firstInside restLeaves, equal,
      takeWhile_span secondInside otherLeaves]
  subst same
  exact ⟨rfl, List.append_cancel_left equal⟩

end Spans

/-- The mark does not stand in the text. -/
def Free (mark : Char) (text : String) : Prop :=
  mark ∉ text.toList

instance (mark : Char) (text : String) : Decidable (Free mark text) :=
  inferInstanceAs (Decidable (mark ∉ text.toList))

/-- Two ways to read a text up to a mark are the same. -/
theorem free_unique {mark : Char} {first second : String} {rest other : List Char}
    (firstFree : Free mark first) (secondFree : Free mark second)
    (equal : first.toList ++ mark :: rest = second.toList ++ mark :: other) :
    first = second ∧ rest = other := by
  have inside : ∀ {text : String}, Free mark text → ∀ c ∈ text.toList, (c != mark) = true := by
    intro text free c member
    simpa using ne_of_mem_of_not_mem member free
  have leaves (chars : List Char) : Leaves (· != mark) (mark :: chars) := leaves_cons (by simp)
  have parts := span_unique (inside firstFree) (inside secondFree) (leaves rest) (leaves other)
    equal
  exact ⟨String.toList_injective parts.1, (List.cons.inj parts.2).2⟩

/-- A letter, a digit or an underscore. -/
def isWordChar (c : Char) : Bool :=
  c.isAlphanum || c == '_'

/-- A text of at least one letter, digit or underscore and nothing else. -/
def IsWord (text : String) : Prop :=
  text ≠ "" ∧ ∀ c ∈ text.toList, isWordChar c = true

instance (text : String) : Decidable (IsWord text) :=
  decidable_of_iff (text ≠ "" ∧ text.toList.all isWordChar = true) (by simp [IsWord])

theorem IsWord.free {text : String} (word : IsWord text) (mark : Char)
    (outside : isWordChar mark = false) : Free mark text := by
  intro member
  rw [word.2 mark member] at outside
  contradiction

theorem intercalate_cons (separator piece : String) (pieces : List String) :
    separator.intercalate (piece :: pieces) =
      piece ++ String.join (pieces.map (separator ++ ·)) := by
  induction pieces generalizing piece with
  | nil => simp
  | cons next pieces ih =>
      rw [String.intercalate_cons_cons, ih]
      simp [String.append_assoc]

end PrismaZod.Text
