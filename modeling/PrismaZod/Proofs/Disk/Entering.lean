import PrismaZod.Proofs.Disk.Repetition
import PrismaZod.Proofs.Path.Join

/-!
# Files directly in a directory

A directory that was made can be followed to its end, and so can the path of a
file in it up to its name.  A write to such a path fails only where the name is
that of a directory, and no write before it makes one.
-/

namespace PrismaZod.Disk

open Text

/-- All segments of the path lead through directories, up to its place. -/
structure Enters (disk : Disk) (path : Path) : Prop where
  noNul : Free '\x00' path.text
  walked : path.segments.foldlM disk.enter (disk.start path) = .ok (disk.placeOf path)

variable {disk before after : Disk} {path root : Path} {name stem : String} {place : Place}
  {contents : ByteArray} {written : List PlannedFile}

/-! ## The place of a name in a directory -/

theorem start_join (disk : Disk) (root : Path) (free : Free '/' name) :
    disk.start (root.join name) = disk.start root := by
  rw [start, start, Path.isAbsolute_join free]

theorem placeOf_join (disk : Disk) (root : Path) (free : Free '/' name) :
    disk.placeOf (root.join name) = follow (disk.placeOf root) name := by
  obtain ⟨front, whole, joined⟩ := root.exists_segments_join
  rw [placeOf, placeOf, joined name free, start_join disk root free]
  rcases whole with whole | whole <;> simp [whole]

theorem placeOf_filePath (disk : Disk) (root : Path) (free : Free '/' stem) :
    disk.placeOf (filePath root stem) = disk.placeOf root ++ [stem ++ ".ts"] := by
  rw [filePath, placeOf_join disk root (free_fileName free (by decide)),
    follow_name _ (fileName_ne stem (by decide)) (fileName_ne stem (by decide))
      (fileName_ne stem (by decide))]

/-! ## Directories that can be entered -/

theorem noNul_of_locate {target : Target} (located : disk.locate path = .ok target) :
    Free '\x00' path.text := by
  intro nul
  rw [locate, if_pos nul] at located
  cases located

theorem enters_of_isDirectory (tree : disk.IsTree) (isDirectory : disk.isDirectory path = true) :
    disk.Enters path := by
  have reached : ∃ target next, disk.locate path = .ok target ∧
      path.segments.foldlM disk.enter (disk.start path) = .ok next := by
    rcases locate_forms path with ⟨fault, fails⟩ | here | ⟨front, last, slash, notEmpty, form⟩
    · rw [Disk.isDirectory, fails disk] at isDirectory
      cases isDirectory
    · exact ⟨_, _, (here disk).1, (here disk).2.2⟩
    · obtain ⟨-, locates, walks⟩ := form disk
      rw [Disk.isDirectory, locates] at isDirectory
      rw [locates, walks]
      cases walked : front.foldlM disk.enter (disk.start path) with
      | error fault =>
          rw [walked] at isDirectory
          cases isDirectory
      | ok around =>
          simp only [walked] at isDirectory
          by_cases dots : last = "." ∨ last = ".."
          · rcases dots with rfl | rfl
            · exact ⟨_, around, rfl, rfl⟩
            · exact ⟨_, around.dropLast, rfl, rfl⟩
          · simp only [if_neg dots] at isDirectory ⊢
            refine ⟨_, around ++ [last], rfl, ?_⟩
            split at isDirectory
            · rename_i child
              obtain ⟨short, held⟩ := child?_eq_ok_iff.mp child
              have named := not_or.mp dots
              change disk.enter around last = _
              simp [enter, notEmpty, named, Nat.not_lt.mpr short, held]
            · cases isDirectory
  obtain ⟨target, next, located, walked⟩ := reached
  obtain ⟨rfl, -⟩ := foldlM_enter_eq_ok tree (tree.directory_start path) walked
  exact ⟨noNul_of_locate located, walked⟩

/-- A directory that was made can be entered. -/
theorem enters_of_createDirectories (tree : before.IsTree)
    (success : before.createDirectories path = (.ok (), after)) : after.Enters path := by
  have created := creates_createDirectories tree path
  rw [success] at created
  rcases isDirectory_of_createWithin tree success with empty | isDirectory
  · have isEmpty : path = ⟨""⟩ := by rw [← empty]
    rw [isEmpty]
    refine ⟨by decide, ?_⟩
    rw [placeOf_empty]
    rfl
  · exact enters_of_isDirectory created.tree isDirectory

theorem Keeps.enters (keeps : before.Keeps after) (enters : before.Enters path) :
    after.Enters path where
  noNul := enters.noNul
  walked := by
    rw [start_congr keeps.working, placeOf_congr keeps.working]
    exact keeps.foldlM_enter enters.walked

/-- The path of a file in a directory that can be entered leads to its name there. -/
theorem Enters.locate_filePath (enters : disk.Enters root) (free : Free '/' stem)
    (noNul : Free '\x00' stem) (short : (filePath root stem).text.utf8ByteSize < pathLimit) :
    disk.locate (filePath root stem) =
      .ok (.name (disk.placeOf root) (stem ++ ".ts") false) := by
  have nameFree : Free '/' (stem ++ ".ts") := free_fileName free (by decide)
  have notEmpty : stem ++ ".ts" ≠ "" := fileName_ne stem (by decide)
  have notHere : stem ++ ".ts" ≠ "." := fileName_ne stem (by decide)
  have notParent : stem ++ ".ts" ≠ ".." := fileName_ne stem (by decide)
  obtain ⟨front, whole, joined⟩ := root.exists_segments_join
  have segments : (filePath root stem).segments = front ++ [stem ++ ".ts"] := joined _ nameFree
  have pathFree : '\x00' ∉ (filePath root stem).text.toList := by
    intro nul
    rcases Path.mem_text_join nul with inRoot | isSlash | inName
    · exact enters.noNul inRoot
    · cases isSlash
    · exact free_fileName noNul (by decide) inName
  have pathNotEmpty : (filePath root stem).text ≠ "" := by
    intro empty
    have last := congrArg List.getLast? segments
    simp [Path.segments, empty, splitAt, notEmpty.symm] at last
  -- An empty segment at the end of the root leads nowhere else.
  have walked : front.foldlM disk.enter (disk.start root) = .ok (disk.placeOf root) := by
    have all := enters.walked
    rcases whole with whole | whole <;> rw [whole] at all
    · exact all
    · rw [List.foldlM_append] at all
      cases inner : front.foldlM disk.enter (disk.start root) with
      | error fault =>
          rw [inner] at all
          cases all
      | ok place =>
          rw [inner] at all
          exact all
  have sameStart : disk.start (filePath root stem) = disk.start root :=
    start_join disk root nameFree
  rw [← sameStart] at walked
  simp only [start] at walked
  rw [locate, if_neg pathFree, if_neg pathNotEmpty, if_neg (Nat.not_le.mpr short), segments]
  simp [notEmpty, notHere, notParent, walked]

/-! ## Writes to located files -/

theorem isDirectory_iff_of_locate {slash : Bool}
    (located : disk.locate path = .ok (.name place name slash))
    (short : name.utf8ByteSize ≤ nameLimit) :
    disk.isDirectory path = true ↔ disk.get? (place ++ [name]) = some .directory := by
  rw [isDirectory_iff, located]
  constructor
  · rintro (here | ⟨around, last, trailing, same, child⟩)
    · cases here
    · cases same
      exact (child?_eq_ok_iff.mp child).2
  · intro held
    exact .inr ⟨place, name, slash, rfl, child?_eq_ok_iff.mpr ⟨short, held⟩⟩

/-- A write to a name in a directory fails only if the name is that of a directory. -/
theorem isDirectory_of_writeFile_error
    (located : disk.locate path = .ok (.name place name false))
    (short : name.utf8ByteSize ≤ nameLimit) {fault : FileFault}
    (failed : disk.writeFile path contents = .error fault) :
    fault = .isDirectory ∧ disk.isDirectory path = true := by
  rw [isDirectory_iff_of_locate located short]
  by_cases held : disk.get? (place ++ [name]) = some .directory
  · have child := child?_eq_ok_iff.mpr ⟨short, held⟩
    rw [writeFile, located] at failed
    simp only [child] at failed
    cases failed
    exact ⟨rfl, held⟩
  · have success : disk.writeFile path contents =
        .ok (disk.set (place ++ [name]) (.file contents)) :=
      writeFile_eq_ok_iff.mpr ⟨place, name, located, short, held, rfl⟩
    rw [success] at failed
    cases failed

theorem not_isDirectory_of_writeFile (success : disk.writeFile path contents = .ok after) :
    disk.isDirectory path ≠ true := by
  obtain ⟨place, name, located, short, free, -⟩ := writeFile_eq_ok_iff.mp success
  rw [Ne, isDirectory_iff_of_locate located short]
  exact free

/-- No file that was written had the path of a directory. -/
theorem Wrote.not_isDirectory (tree : before.IsTree) (wrote : before.Wrote written after) :
    ∀ file ∈ written, before.isDirectory file.path ≠ true := by
  induction wrote with
  | none disk => exact fun file among => nomatch among
  | next success _ ih =>
      have changes := changes_writeFile tree success
      refine List.forall_mem_cons.mpr ⟨not_isDirectory_of_writeFile success, ?_⟩
      exact fun other among isDirectory =>
        ih changes.tree other among (changes.keeps.isDirectory isDirectory)

/-- Writing files makes no directory. -/
theorem Wrote.isDirectory_of_locate (tree : before.IsTree) (wrote : before.Wrote written after)
    {slash : Bool} (located : before.locate path = .ok (.name place name slash))
    (short : name.utf8ByteSize ≤ nameLimit) (isDirectory : after.isDirectory path = true) :
    before.isDirectory path = true := by
  have changes := wrote.changes tree
  rw [isDirectory_iff_of_locate (changes.keeps.locate located) short] at isDirectory
  rw [isDirectory_iff_of_locate located short]
  rcases changes.directory _ isDirectory with held | ⟨root, among, -⟩
  · exact held
  · cases among

end PrismaZod.Disk
