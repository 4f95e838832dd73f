import PrismaZod.Plan
import PrismaZod.Proofs.Disk.Directories

/-!
# What changes on a disk

Directories are made for some paths and files are written to others.  Whatever
the order, a file holds what was written last to a path that leads to it, and
nothing else is lost.  Such changes compose, so that it is enough to know each
step.
-/

namespace PrismaZod.Disk

/-- Files are written in order, each with success. -/
inductive Wrote : Disk → List PlannedFile → Disk → Prop
  | none (disk : Disk) : Wrote disk [] disk
  | next {before middle after : Disk} {file : PlannedFile} {rest : List PlannedFile} :
      before.writeFile file.path file.contents.toUTF8 = .ok middle → Wrote middle rest after →
        Wrote before (file :: rest) after

/-- The last of the files whose path leads to the place. -/
def lastTo? (disk : Disk) (place : Place) (files : List PlannedFile) : Option PlannedFile :=
  (files.filter fun file => disk.resolve? file.path = some place).getLast?

/-- What changes when directories are made for the roots and the files are
written. -/
structure Changes (roots : List Path) (written : List PlannedFile) (before after : Disk) :
    Prop where
  tree : after.IsTree
  keeps : before.Keeps after
  /-- The paths of the files can be followed. -/
  resolves : ∀ file ∈ written, (after.resolve? file.path).isSome
  /-- A file holds what was written to it last, or else what it held. -/
  file : ∀ place contents, after.get? place = some (.file contents) →
    (∃ last, after.lastTo? place written = some last ∧ contents = last.contents.toUTF8) ∨
    (after.lastTo? place written = none ∧ before.get? place = some (.file contents))
  /-- A new directory is named by a prefix of a root. -/
  directory : ∀ place, after.get? place = some .directory →
    before.get? place = some .directory ∨ ∃ root ∈ roots, before.NamesByPrefix root place

variable {disk before middle after : Disk} {roots further : List Path}
  {written more : List PlannedFile} {path : Path}

theorem lastTo?_singleton (disk : Disk) (place : Place) (file : PlannedFile) :
    disk.lastTo? place [file] =
      if disk.resolve? file.path = some place then some file else none := by
  by_cases reaches : disk.resolve? file.path = some place <;> simp [lastTo?, reaches]

theorem lastTo?_append (disk : Disk) (place : Place) (first second : List PlannedFile) :
    disk.lastTo? place (first ++ second) =
      (disk.lastTo? place second).or (disk.lastTo? place first) := by
  rw [lastTo?, List.filter_append, List.getLast?_append, lastTo?, lastTo?]

theorem Keeps.lastTo? (keeps : before.Keeps after)
    (resolves : ∀ file ∈ written, (before.resolve? file.path).isSome) (place : Place) :
    after.lastTo? place written = before.lastTo? place written := by
  rw [Disk.lastTo?, Disk.lastTo?]
  congr 1
  apply List.filter_congr
  intro file among
  obtain ⟨reached, resolved⟩ := Option.isSome_iff_exists.mp (resolves file among)
  rw [resolved, keeps.resolve? resolved]

namespace Changes

theorem refl (tree : disk.IsTree) : Changes [] [] disk disk where
  tree := tree
  keeps := .refl disk
  resolves _ among := nomatch among
  file _ _ held := .inr ⟨rfl, held⟩
  directory _ held := .inl held

theorem trans (first : Changes roots written before middle)
    (second : Changes further more middle after) :
    Changes (roots ++ further) (written ++ more) before after where
  tree := second.tree
  keeps := first.keeps.trans second.keeps
  resolves file among := by
    rcases List.mem_append.mp among with amongFirst | amongSecond
    · obtain ⟨place, resolved⟩ := Option.isSome_iff_exists.mp (first.resolves file amongFirst)
      rw [second.keeps.resolve? resolved]
      rfl
    · exact second.resolves file amongSecond
  file place contents held := by
    rw [lastTo?_append, second.keeps.lastTo? first.resolves]
    rcases second.file place contents held with ⟨last, isLast, same⟩ | ⟨notLater, heldBefore⟩
    · exact .inl ⟨last, by rw [isLast, Option.some_or], same⟩
    · rw [notLater, Option.none_or]
      exact first.file place contents heldBefore
  directory place held := by
    rcases second.directory place held with heldBefore | ⟨root, among, names⟩
    · rcases first.directory place heldBefore with heldFirst | ⟨root, among, names⟩
      · exact .inl heldFirst
      · exact .inr ⟨root, List.mem_append_left further among, names⟩
    · rw [namesByPrefix_congr first.keeps.working] at names
      exact .inr ⟨root, List.mem_append_right roots among, names⟩

end Changes

theorem AddsDirectories.changes {root : Path} (tree : after.IsTree)
    (adds : AddsDirectories (before.NamesByPrefix root) before after) :
    Changes [root] [] before after where
  tree := tree
  keeps := adds.keeps
  resolves _ among := nomatch among
  file place contents held := .inr ⟨rfl, (adds.file_iff place contents).mp held⟩
  directory place held := by
    rcases adds.directory_or_named held with heldBefore | names
    · exact .inl heldBefore
    · exact .inr ⟨root, List.mem_singleton_self root, names⟩

theorem writeFile_eq_ok (tree : disk.IsTree) {contents : ByteArray}
    (success : disk.writeFile path contents = .ok after) :
    after = disk.set (disk.placeOf path) (.file contents) ∧ disk.placeOf path ≠ [] ∧
      disk.get? (disk.placeOf path).dropLast = some .directory ∧
      disk.get? (disk.placeOf path) ≠ some .directory ∧
      disk.resolve? path = some (disk.placeOf path) := by
  obtain ⟨directory, name, located, -, free, rfl⟩ := writeFile_eq_ok_iff.mp success
  obtain ⟨place, around⟩ := placeOf_of_locate_name tree located
  have resolved : disk.resolve? path = some (directory ++ [name]) := by
    rw [resolve?, located]
  rw [place, List.dropLast_concat]
  exact ⟨rfl, by simp, around, free, resolved⟩

theorem changes_writeFile (tree : before.IsTree) {file : PlannedFile}
    (success : before.writeFile file.path file.contents.toUTF8 = .ok after) :
    Changes [] [file] before after := by
  obtain ⟨rfl, notRoot, around, free, resolved⟩ := writeFile_eq_ok tree success
  have entries (place : Place) := get?_set before (before.placeOf file.path) place
    (.file file.contents.toUTF8) notRoot
  have keeps := keeps_set file.contents.toUTF8 notRoot free
  have resolvedAfter := keeps.resolve? resolved
  refine ⟨tree.set notRoot around (.inr free), keeps, ?_, ?_, ?_⟩
  · intro written among
    rw [List.mem_singleton.mp among, resolvedAfter]
    rfl
  · intro place contents held
    rw [entries] at held
    split at held
    · rename_i same
      cases held
      exact .inl ⟨file, by rw [lastTo?_singleton, resolvedAfter, same, if_pos rfl], rfl⟩
    · rename_i elsewhere
      have notReached : some (before.placeOf file.path) ≠ some place :=
        fun same => elsewhere (Option.some.inj same).symm
      exact .inr ⟨by rw [lastTo?_singleton, resolvedAfter, if_neg notReached], held⟩
  · intro place held
    rw [entries] at held
    split at held
    · cases held
    · exact .inl held

theorem Wrote.changes (tree : before.IsTree) (wrote : Wrote before written after) :
    Changes [] written before after := by
  induction wrote with
  | none disk => exact .refl tree
  | next success _ ih =>
      have first := changes_writeFile tree success
      exact first.trans (ih first.tree)

end PrismaZod.Disk
