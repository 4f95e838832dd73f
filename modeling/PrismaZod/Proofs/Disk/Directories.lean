import PrismaZod.Proofs.Disk.Operations
import PrismaZod.Proofs.Disk.Tree

/-!
# Making directories

Whether making the directories of a path succeeds or fails, no file changes, and
what is new are directories that prefixes of the path name.  If it succeeds, the
place of the path is a directory.
-/

namespace PrismaZod.Disk

/-- Nothing changes but that there are directories, at some of the named places,
where nothing was. -/
structure AddsDirectories (named : Place → Prop) (before after : Disk) : Prop where
  working : after.workingDirectory = before.workingDirectory
  entry : ∀ place, after.get? place = before.get? place ∨
    before.get? place = none ∧ after.get? place = some .directory ∧ named place

/-- What comes of making a directory at a path: a tree with new directories at
named places only, with the place of the path among its directories if all went
well. -/
structure Creates (path : Path) (named : Place → Prop) (before : Disk)
    (outcome : Except FileFault Unit × Disk) : Prop where
  tree : outcome.2.IsTree
  adds : AddsDirectories named before outcome.2
  held : outcome.1 = .ok () → outcome.2.get? (before.placeOf path) = some .directory

variable {disk before middle after : Disk} {named further : Place → Prop} {path : Path}

namespace AddsDirectories

theorem refl (named : Place → Prop) (disk : Disk) : AddsDirectories named disk disk where
  working := rfl
  entry _ := .inl rfl

theorem trans (first : AddsDirectories named before middle)
    (second : AddsDirectories named middle after) : AddsDirectories named before after where
  working := second.working.trans first.working
  entry place := by
    rcases second.entry place with same | ⟨absent, made, names⟩
    · rw [same]
      exact first.entry place
    · rcases first.entry place with same | ⟨-, held, -⟩
      · exact .inr ⟨same ▸ absent, made, names⟩
      · rw [held] at absent
        cases absent

theorem mono (adds : AddsDirectories named before after)
    (weaker : ∀ place, named place → further place) : AddsDirectories further before after where
  working := adds.working
  entry place := by
    rcases adds.entry place with same | ⟨absent, made, names⟩
    · exact .inl same
    · exact .inr ⟨absent, made, weaker place names⟩

theorem keeps (adds : AddsDirectories named before after) : before.Keeps after where
  working := adds.working
  directory place held := by
    rcases adds.entry place with same | ⟨absent, -, -⟩
    · rw [same, held]
    · rw [held] at absent
      cases absent
  file place contents held := by
    rcases adds.entry place with same | ⟨absent, -, -⟩
    · exact ⟨contents, by rw [same, held]⟩
    · rw [held] at absent
      cases absent

theorem file_iff (adds : AddsDirectories named before after) (place : Place)
    (contents : ByteArray) :
    after.get? place = some (.file contents) ↔ before.get? place = some (.file contents) := by
  rcases adds.entry place with same | ⟨absent, made, -⟩
  · rw [same]
  · simp [absent, made]

theorem directory_or_named (adds : AddsDirectories named before after) {place : Place}
    (held : after.get? place = some .directory) :
    before.get? place = some .directory ∨ named place := by
  rcases adds.entry place with same | ⟨-, -, names⟩
  · exact .inl (same ▸ held)
  · exact .inr names

end AddsDirectories

theorem makeDirectory_eq_ok (tree : disk.IsTree) (made : disk.makeDirectory path = .ok after) :
    after = disk.set (disk.placeOf path) .directory ∧ disk.placeOf path ≠ [] ∧
      disk.get? (disk.placeOf path).dropLast = some .directory ∧
      disk.get? (disk.placeOf path) = none := by
  obtain ⟨directory, name, slash, located, child, rfl⟩ := makeDirectory_eq_ok_iff.mp made
  obtain ⟨place, around⟩ := placeOf_of_locate_name tree located
  rw [place, List.dropLast_concat]
  exact ⟨rfl, by simp, around, (child?_eq_ok_iff.mp child).2⟩

theorem get?_of_isDirectory (tree : disk.IsTree) (isDirectory : disk.isDirectory path = true) :
    disk.get? (disk.placeOf path) = some .directory := by
  rcases isDirectory_iff.mp isDirectory with located | ⟨directory, name, slash, located, child⟩
  · exact get?_of_locate_directory tree located
  · rw [(placeOf_of_locate_name tree located).1]
    exact (child?_eq_ok_iff.mp child).2

theorem creates_ensureDirectory (tree : disk.IsTree) (path : Path) :
    Creates path (· = disk.placeOf path) disk (disk.ensureDirectory path) := by
  rw [ensureDirectory]
  split
  · rename_i made success
    obtain ⟨rfl, notRoot, around, absent⟩ := makeDirectory_eq_ok tree success
    refine ⟨tree.set notRoot around (.inl rfl), ⟨rfl, fun place => ?_⟩, fun _ => ?_⟩
    · rw [get?_set disk _ place _ notRoot]
      split
      · rename_i same
        exact .inr ⟨same ▸ absent, rfl, same⟩
      · exact .inl rfl
    · rw [get?_set disk _ _ _ notRoot, if_pos rfl]
  · refine ⟨tree, .refl _ disk, fun success => ?_⟩
    split at success
    · rename_i isDirectory
      exact get?_of_isDirectory tree isDirectory
    · cases success

/-- Making a directory with those that contain it makes them at their places. -/
theorem creates_createWithin (tree : disk.IsTree) (path : Path) (beyond : List Path) :
    Creates path (fun place => ∃ made ∈ path :: beyond, place = disk.placeOf made) disk
      (disk.createWithin path beyond) := by
  have ensured {current : Disk} {among : List Path} (isTree : current.IsTree) (path : Path) :
      Creates path (fun place => ∃ made ∈ path :: among, place = current.placeOf made) current
        (current.ensureDirectory path) := by
    have creates := creates_ensureDirectory isTree path
    exact ⟨creates.tree,
      creates.adds.mono fun place names => ⟨path, List.mem_cons_self, names⟩, creates.held⟩
  have nothing {among : List Path} (path : Path) (empty : path.text = "") :
      Creates path (fun place => ∃ made ∈ path :: among, place = disk.placeOf made) disk
        (.ok (), disk) := by
    refine ⟨tree, .refl _ disk, fun _ => ?_⟩
    have isEmpty : path = ⟨""⟩ := by rw [← empty]
    rw [isEmpty, placeOf_empty]
    exact tree.working
  induction beyond generalizing path with
  | nil =>
      rw [createWithin]
      split
      · exact nothing path ‹_›
      · exact ensured tree path
  | cons parent beyond ih =>
      rw [createWithin]
      split
      · exact nothing path ‹_›
      · split
        · have around := ih parent
          have names (place : Place) :
              (∃ made ∈ parent :: beyond, place = disk.placeOf made) →
                ∃ made ∈ path :: parent :: beyond, place = disk.placeOf made := by
            rintro ⟨made, among, isPlace⟩
            exact ⟨made, List.mem_cons_of_mem path among, isPlace⟩
          split
          · rename_i fault left failed
            rw [failed] at around
            refine ⟨around.tree, around.adds.mono names, fun success => ?_⟩
            cases success
          · rename_i inside made
            rw [made] at around
            -- The directory itself is made on the disk where its parent has been.
            have creates := creates_ensureDirectory around.tree path
            have samePlace := placeOf_congr around.adds.working path
            refine ⟨creates.tree, (around.adds.mono names).trans (creates.adds.mono ?_), ?_⟩
            · intro place isPlace
              exact ⟨path, List.mem_cons_self, isPlace.trans samePlace⟩
            · rw [← samePlace]
              exact creates.held
        · exact ensured tree path

/-- Making the directories of a path makes directories that its prefixes name. -/
theorem creates_createDirectories (tree : disk.IsTree) (path : Path) :
    Creates path (disk.NamesByPrefix path) disk (disk.createDirectories path) := by
  have creates := creates_createWithin tree path path.ancestors
  refine ⟨creates.tree, creates.adds.mono ?_, creates.held⟩
  rintro place ⟨made, among, rfl⟩
  rcases List.mem_cons.mp among with rfl | amongAncestors
  · exact disk.namesByPrefix_placeOf made
  · exact namesByPrefix_of_mem_ancestors amongAncestors

end PrismaZod.Disk
