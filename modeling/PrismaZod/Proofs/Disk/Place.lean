import PrismaZod.Disk.Basic
import PrismaZod.Proofs.Path.Segments

/-!
# The places that paths name

A path names a place by its segments alone, whatever is there.  A prefix of its
segments names a place on the way, and the directories that are made for a path
are all of this kind.
-/

namespace PrismaZod.Disk

/-- Where a segment leads from a place, whatever is there. -/
def follow (place : Place) (segment : String) : Place :=
  if segment = "" ∨ segment = "." then place
  else if segment = ".." then place.dropLast
  else place ++ [segment]

/-- The place that a path is followed from. -/
def start (disk : Disk) (path : Path) : Place :=
  if path.isAbsolute then [] else disk.workingDirectory

/-- The place that a path names. -/
def placeOf (disk : Disk) (path : Path) : Place :=
  path.segments.foldl follow (disk.start path)

/-- A prefix of the path names the place. -/
def NamesByPrefix (disk : Disk) (path : Path) (place : Place) : Prop :=
  ∃ count, place = (path.segments.take count).foldl follow (disk.start path)

variable {disk other : Disk} {path : Path}

@[simp]
theorem follow_empty (place : Place) : follow place "" = place := by
  simp [follow]

theorem follow_name {segment : String} (place : Place) (name : segment ≠ "")
    (notHere : segment ≠ ".") (notParent : segment ≠ "..") :
    follow place segment = place ++ [segment] := by
  simp [follow, name, notHere, notParent]

theorem placeOf_empty (disk : Disk) : disk.placeOf ⟨""⟩ = disk.workingDirectory := by
  have segments : (Path.mk "").segments = [""] := by decide
  have relative : (Path.mk "").isAbsolute = false := by decide
  simp [placeOf, segments, start, relative]

theorem placeOf_root (disk : Disk) : disk.placeOf ⟨"/"⟩ = [] := by
  have segments : (Path.mk "/").segments = ["", ""] := by decide
  have absolute : (Path.mk "/").isAbsolute = true := by decide
  simp [placeOf, segments, start, absolute]

theorem start_congr (same : disk.workingDirectory = other.workingDirectory) (path : Path) :
    disk.start path = other.start path := by
  rw [start, start, same]

theorem placeOf_congr (same : disk.workingDirectory = other.workingDirectory) (path : Path) :
    disk.placeOf path = other.placeOf path := by
  rw [placeOf, placeOf, start_congr same]

theorem namesByPrefix_congr (same : disk.workingDirectory = other.workingDirectory)
    (path : Path) (place : Place) :
    disk.NamesByPrefix path place ↔ other.NamesByPrefix path place := by
  rw [NamesByPrefix, NamesByPrefix, start_congr same]

theorem namesByPrefix_placeOf (disk : Disk) (path : Path) :
    disk.NamesByPrefix path (disk.placeOf path) :=
  ⟨path.segments.length, by rw [List.take_length, placeOf]⟩

/-- A path joined of segments at the front of another one names the place where
these lead. -/
theorem placeOf_ofReversed {kept : List String} (suffix : kept <:+ path.segments.reverse)
    (notEmpty : kept.head? ≠ some "") :
    disk.placeOf (.ofReversed path.isAbsolute kept) =
      kept.reverse.foldl follow (disk.start path) := by
  by_cases none : kept = []
  · cases absolute : path.isAbsolute
    · have here : Path.ofReversed false [] = ⟨""⟩ := by decide
      simp [none, here, placeOf_empty, start, absolute]
    · have root : Path.ofReversed true [] = ⟨"/"⟩ := by decide
      simp [none, root, placeOf_root, start, absolute]
  · have front : kept.reverse <+: path.segments := by
      simpa using List.reverse_prefix.mpr suffix
    have joined : Path.ofReversed path.isAbsolute kept = ⟨"/".intercalate kept.reverse⟩ := by
      simp [Path.ofReversed, none]
    have segments : (Path.mk ("/".intercalate kept.reverse)).segments = kept.reverse :=
      Path.segments_intercalate (by simpa using none)
        (fun piece among => Path.free_of_mem_segments (front.subset among))
    have sameStart : (Path.mk ("/".intercalate kept.reverse)).isAbsolute = path.isAbsolute := by
      cases pieces : kept.reverse with
      | nil => exact (none (by simpa using pieces)).elim
      | cons first others =>
          rw [pieces] at segments front
          obtain ⟨rest, all⟩ := front
          have whole : path.segments = first :: (others ++ rest) := all.symm
          -- A lone empty segment would be the root in one path and not in the other.
          have notLone : first = "" → others ≠ [] := by
            rintro isEmpty rfl
            have lone : kept = [first] := by simpa using congrArg List.reverse pieces
            exact notEmpty (by simp [lone, isEmpty])
          rw [Bool.eq_iff_iff, Path.isAbsolute_iff segments, Path.isAbsolute_iff whole]
          constructor
          · rintro ⟨isEmpty, more⟩
            exact ⟨isEmpty, by simp [more]⟩
          · rintro ⟨isEmpty, -⟩
            exact ⟨isEmpty, notLone isEmpty⟩
    rw [joined, placeOf, segments, start, start, sameStart]

/-- A directory that contains a path is named by a prefix of the path. -/
theorem namesByPrefix_of_mem_ancestors {ancestor : Path} (among : ancestor ∈ path.ancestors) :
    disk.NamesByPrefix path (disk.placeOf ancestor) := by
  obtain ⟨kept, rfl, suffix, notEmpty⟩ := Path.exists_of_mem_enclosing among
  have front : kept.reverse <+: path.segments := by
    simpa using List.reverse_prefix.mpr suffix
  refine ⟨kept.reverse.length, ?_⟩
  rw [placeOf_ofReversed suffix notEmpty, ← List.prefix_iff_eq_take.mp front]

end PrismaZod.Disk
