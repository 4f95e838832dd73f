/-!
# Splitting at a mark

Splitting keeps empty pieces, so a list with `n` marks has `n + 1` pieces and
joining them gives the list back.
-/

namespace PrismaZod.Text

variable {α : Type} [DecidableEq α]

def splitAt (mark : α) : List α → List (List α)
  | [] => [[]]
  | head :: rest =>
      if head = mark then [] :: splitAt mark rest
      else
        match splitAt mark rest with
        | [] => [[head]]
        | piece :: pieces => (head :: piece) :: pieces

theorem splitAt_ne_nil (mark : α) (list : List α) : splitAt mark list ≠ [] := by
  cases list with
  | nil => simp [splitAt]
  | cons head rest =>
      simp only [splitAt]
      split
      · simp
      · split <;> simp

/-- A piece without marks and the mark after it come off at the front. -/
theorem splitAt_append_mark {mark : α} {piece : List α} (free : mark ∉ piece)
    (rest : List α) :
    splitAt mark (piece ++ mark :: rest) = piece :: splitAt mark rest := by
  induction piece with
  | nil => simp [splitAt]
  | cons head tail ih =>
      simp only [List.mem_cons, not_or] at free
      simp [splitAt, Ne.symm free.1, ih free.2]

/-- Without marks there is one piece. -/
theorem splitAt_of_not_mem {mark : α} {list : List α} (free : mark ∉ list) :
    splitAt mark list = [list] := by
  induction list with
  | nil => rfl
  | cons head tail ih =>
      simp only [List.mem_cons, not_or] at free
      simp [splitAt, Ne.symm free.1, ih free.2]

end PrismaZod.Text
