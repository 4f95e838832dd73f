import PrismaZod.Proofs.Text.Span
import PrismaZod.Text.Split

/-!
# Pieces of a text

A mark in a text is where the pieces before it end and those after it start.
Lines are the pieces between line breaks.
-/

namespace PrismaZod.Text

section Pieces

variable {α : Type} [DecidableEq α] {mark : α}

theorem splitAt_append_cons (before after : List α) :
    splitAt mark (before ++ mark :: after) = splitAt mark before ++ splitAt mark after := by
  induction before with
  | nil => simp [splitAt]
  | cons head before ih =>
      by_cases isMark : head = mark
      · simp [splitAt, isMark, ih]
      · cases pieces : splitAt mark before with
        | nil => exact (splitAt_ne_nil mark before pieces).elim
        | cons piece others => simp [splitAt, isMark, ih, pieces]

theorem not_mem_of_mem_splitAt {list piece : List α} (among : piece ∈ splitAt mark list) :
    mark ∉ piece := by
  induction list generalizing piece with
  | nil => simp_all [splitAt]
  | cons head list ih =>
      simp only [splitAt] at among
      split at among
      · rcases List.mem_cons.mp among with rfl | among
        · simp
        · exact ih among
      · rename_i notMark
        split at among
        · rename_i noPieces
          exact (splitAt_ne_nil mark list noPieces).elim
        · rename_i first others pieces
          rcases List.mem_cons.mp among with rfl | among
          · simp [Ne.symm notMark, ih (pieces ▸ List.mem_cons_self)]
          · exact ih (pieces ▸ List.mem_cons_of_mem _ among)

end Pieces

/-- The lines of a text. -/
def lines (text : String) : List String :=
  (splitAt '\n' text.toList).map String.ofList

/-- A line without breaks and the break after it come off at the front. -/
theorem lines_append_break {line : String} (free : Free '\n' line) (text : String) :
    lines (line ++ "\n" ++ text) = line :: lines text := by
  have chars : (line ++ "\n" ++ text).toList = line.toList ++ '\n' :: text.toList := by simp
  simp [lines, chars, splitAt_append_mark free]

@[simp]
theorem lines_break (text : String) : lines ("\n" ++ text) = "" :: lines text := by
  have empty : Free '\n' "" := by decide
  simpa using lines_append_break empty text

@[simp]
theorem lines_empty : lines "" = [""] := by
  decide

end PrismaZod.Text
