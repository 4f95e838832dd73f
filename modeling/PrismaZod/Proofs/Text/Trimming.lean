import Mathlib.Data.List.DropRight
import PrismaZod.Proofs.Text.Span
import PrismaZod.Text.Blank

/-!
# Trimming

Trimming takes from a text what stands between the blanks at its two ends.  So it
undoes any padding with blanks, and what a text is trimmed to determines the text
up to such a padding.
-/

namespace PrismaZod.Text

/-- There is no blank at either end. -/
structure Trimmed (chars : List Char) : Prop where
  start : Leaves isBlank chars
  finish : Leaves isBlank chars.reverse

/-- The characters are others with blanks before and after them. -/
def Pads (chars middle : List Char) : Prop :=
  ∃ before after, (∀ c ∈ before, isBlank c = true) ∧ (∀ c ∈ after, isBlank c = true) ∧
    chars = before ++ middle ++ after

theorem isBlankText_iff {text : String} :
    isBlankText text = true ↔ ∀ c ∈ text.toList, isBlank c = true := by
  rw [isBlankText, List.all_eq_true]

variable {chars middle : List Char}

theorem trimChars_eq_rdropWhile (chars : List Char) :
    trimChars chars = (chars.dropWhile isBlank).rdropWhile isBlank :=
  rfl

theorem trimmed_trimChars (chars : List Char) : Trimmed (trimChars chars) where
  start := by
    intro c isHead
    rw [trimChars_eq_rdropWhile, Option.mem_def] at isHead
    obtain ⟨rest, split⟩ := List.rdropWhile_prefix isBlank (chars.dropWhile isBlank)
    refine leaves_dropWhile isBlank chars c ?_
    rw [← split, List.head?_append, isHead]
    rfl
  finish := by
    rw [trimChars, List.reverse_reverse]
    exact leaves_dropWhile isBlank _

theorem pads_trimChars (chars : List Char) : Pads chars (trimChars chars) := by
  refine ⟨chars.takeWhile isBlank, (chars.dropWhile isBlank).rtakeWhile isBlank, ?_, ?_, ?_⟩
  · exact fun c => List.mem_takeWhile_imp
  · exact fun c => List.mem_rtakeWhile_imp
  · rw [trimChars_eq_rdropWhile, List.append_assoc, List.rdropWhile_append_rtakeWhile,
      List.takeWhile_append_dropWhile]

theorem trimChars_eq_nil_iff : trimChars chars = [] ↔ ∀ c ∈ chars, isBlank c = true := by
  constructor
  · intro nothing
    obtain ⟨before, after, blankBefore, blankAfter, split⟩ := nothing ▸ pads_trimChars chars
    rw [split, List.append_nil]
    exact List.forall_mem_append.mpr ⟨blankBefore, blankAfter⟩
  · intro blank
    rw [trimChars, List.dropWhile_eq_nil_iff.mpr blank]
    rfl

theorem Pads.trimChars_eq (pads : Pads chars middle) (trimmed : Trimmed middle) :
    trimChars chars = middle := by
  obtain ⟨before, after, blankBefore, blankAfter, rfl⟩ := pads
  cases middle with
  | nil =>
      rw [List.append_nil]
      exact trimChars_eq_nil_iff.mpr (List.forall_mem_append.mpr ⟨blankBefore, blankAfter⟩)
  | cons c middle =>
      have fromStart : (before ++ c :: middle ++ after).dropWhile isBlank =
          c :: middle ++ after := by
        rw [List.append_assoc]
        exact dropWhile_span blankBefore (leaves_cons (trimmed.start c rfl))
      have blankBack : ∀ c ∈ after.reverse, isBlank c = true := by simpa using blankAfter
      rw [trimChars, fromStart, List.reverse_append, dropWhile_span blankBack trimmed.finish,
        List.reverse_reverse]

theorem trimChars_eq_iff : trimChars chars = middle ↔ Trimmed middle ∧ Pads chars middle := by
  constructor
  · rintro rfl
    exact ⟨trimmed_trimChars chars, pads_trimChars chars⟩
  · rintro ⟨trimmed, pads⟩
    exact pads.trimChars_eq trimmed

end PrismaZod.Text
