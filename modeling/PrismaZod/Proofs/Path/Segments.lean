import PrismaZod.Path
import PrismaZod.Proofs.Text.Pieces

/-!
# Segments of paths

The segments of a path hold no slash, and a path joined of such segments has
them as its segments.  The directories that contain a path are joined of the
segments at its front.
-/

namespace PrismaZod.Path

open Text

theorem free_of_mem_segments {path : Path} {segment : String} (among : segment ∈ path.segments) :
    Free '/' segment := by
  obtain ⟨piece, amongPieces, rfl⟩ := List.mem_map.mp among
  have free := not_mem_of_mem_splitAt amongPieces
  simpa [Free] using free

theorem segments_intercalate {pieces : List String} (nonempty : pieces ≠ [])
    (free : ∀ piece ∈ pieces, Free '/' piece) :
    (Path.mk ("/".intercalate pieces)).segments = pieces := by
  induction pieces with
  | nil => exact (nonempty rfl).elim
  | cons first others ih =>
      have firstFree : '/' ∉ first.toList := free first List.mem_cons_self
      cases others with
      | nil => simp [segments, splitAt_of_not_mem firstFree]
      | cons next others =>
          have rest := ih (List.cons_ne_nil next others)
            (fun piece among => free piece (List.mem_cons_of_mem first among))
          have chars : ("/".intercalate (first :: next :: others)).toList =
              first.toList ++ '/' :: ("/".intercalate (next :: others)).toList := by
            rw [String.intercalate_cons_cons]
            simp
          rw [segments] at rest ⊢
          rw [chars, splitAt_append_mark firstFree, List.map_cons, rest, String.ofList_toList]

/-- A path starts at the root if an empty segment stands in front of others. -/
theorem isAbsolute_iff {path : Path} {first : String} {others : List String}
    (segments : path.segments = first :: others) :
    path.isAbsolute = true ↔ first = "" ∧ others ≠ [] := by
  cases chars : path.text.toList with
  | nil =>
      simp only [Path.segments, chars, splitAt, List.map_cons, List.map_nil] at segments
      simp_all [isAbsolute]
  | cons head rest =>
      rw [Path.segments, chars, splitAt] at segments
      by_cases slash : head = '/'
      · have some := splitAt_ne_nil '/' rest
        simp only [if_pos slash, List.map_cons, List.cons.injEq] at segments
        have nonempty : others ≠ [] := by
          rw [← segments.2]
          simpa using some
        have empty : first = "" := by rw [← segments.1]
        simp [isAbsolute, chars, slash, empty, nonempty]
      · have notEmpty : first ≠ "" := by
          rw [if_neg slash] at segments
          split at segments <;>
          · simp only [List.map_cons, List.cons.injEq] at segments
            simp [← segments.1]
        simp [isAbsolute, chars, slash, notEmpty]

theorem dropIdle_suffix (absolute : Bool) (reversed : List String) :
    dropIdle absolute reversed <:+ reversed := by
  induction reversed with
  | nil => exact List.suffix_refl []
  | cons segment before ih =>
      rw [dropIdle]
      split
      · exact ih.trans (List.suffix_cons segment before)
      · exact List.suffix_refl (segment :: before)

theorem head?_dropIdle_ne (absolute : Bool) (reversed : List String) :
    (dropIdle absolute reversed).head? ≠ some "" := by
  induction reversed with
  | nil => simp [dropIdle]
  | cons segment before ih =>
      rw [dropIdle]
      split
      · exact ih
      · rename_i kept
        intro empty
        have isEmpty : segment = "" := by simpa using empty
        exact kept (by simp [isIdle, isEmpty])

/-- A directory that contains what the segments lead to is joined of the ones
at their front, up to one that is not empty. -/
theorem exists_of_mem_enclosing {absolute : Bool} {reversed : List String} {ancestor : Path}
    (among : ancestor ∈ enclosing absolute reversed) :
    ∃ kept, ancestor = ofReversed absolute kept ∧ kept <:+ reversed ∧ kept.head? ≠ some "" := by
  induction reversed with
  | nil => simp [enclosing] at among
  | cons segment before ih =>
      have further : ancestor ∈ enclosing absolute before →
          ∃ kept, ancestor = ofReversed absolute kept ∧ kept <:+ segment :: before ∧
            kept.head? ≠ some "" := by
        intro amongBefore
        obtain ⟨kept, joined, suffix, notEmpty⟩ := ih amongBefore
        exact ⟨kept, joined, suffix.trans (List.suffix_cons segment before), notEmpty⟩
      rw [enclosing] at among
      split at among
      · exact further among
      · rcases List.mem_cons.mp among with isFirst | amongBefore
        · exact ⟨dropIdle absolute before, isFirst,
            (dropIdle_suffix absolute before).trans (List.suffix_cons segment before),
            head?_dropIdle_ne absolute before⟩
        · exact further amongBefore

end PrismaZod.Path
