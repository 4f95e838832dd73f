import PrismaZod.Proofs.Disk.Reading

/-!
# Doing again what was done

A directory that was made is there when it is to be made again, and files that
were written can be written again in their order.  Where several of them lead to
one place, each but the last is overwritten once more, so that in the end the
disk is what it was.
-/

namespace PrismaZod.Disk

variable {disk before middle after later : Disk} {path : Path} {place other : Place}
  {written : List PlannedFile} {entries : List (Place × Entry)}

/-! ## Entries -/

theorem replace_replace (place : Place) (first second : Entry) (entries : List (Place × Entry)) :
    replace place second (replace place first entries) = replace place second entries := by
  induction entries with
  | nil => simp [replace]
  | cons head rest ih =>
      by_cases atHead : place = head.1 <;> simp [replace, atHead, ih]

theorem replace_of_lookup {entry : Entry} (held : lookup place entries = some entry) :
    replace place entry entries = entries := by
  induction entries with
  | nil => cases held
  | cons head rest ih =>
      rw [lookup] at held
      rw [replace]
      split at held
      · rename_i atHead
        cases held
        rw [if_pos atHead, atHead]
      · rename_i different
        rw [if_neg different, ih held]

/-- Entries at different places can be put in any order, if one of the places is
taken already; otherwise the order shows in the list. -/
theorem replace_comm {held first second : Entry} (apart : place ≠ other)
    (taken : lookup place entries = some held) :
    replace other second (replace place first entries) =
      replace place first (replace other second entries) := by
  induction entries with
  | nil => cases taken
  | cons head rest ih =>
      rw [lookup] at taken
      by_cases atHead : place = head.1
      · subst atHead
        simp [replace, apart.symm]
      · rw [if_neg atHead] at taken
        by_cases otherHead : other = head.1
        · simp [replace, atHead, otherHead]
        · simp [replace, atHead, otherHead, ih taken]

theorem set_set (disk : Disk) (place : Place) (first second : Entry) :
    (disk.set place first).set place second = disk.set place second := by
  simp only [set, replace_replace]

theorem ne_nil_of_file {contents : ByteArray} (held : disk.get? place = some (.file contents)) :
    place ≠ [] := by
  rintro rfl
  rw [get?_root] at held
  cases held

theorem set_of_get? {contents : ByteArray} (held : disk.get? place = some (.file contents)) :
    disk.set place (.file contents) = disk := by
  have notRoot := ne_nil_of_file held
  rw [get?, if_neg notRoot] at held
  rw [set, replace_of_lookup held]

theorem set_comm {contents : ByteArray} (first second : Entry) (apart : place ≠ other)
    (held : disk.get? place = some (.file contents)) :
    (disk.set place first).set other second = (disk.set other second).set place first := by
  have notRoot := ne_nil_of_file held
  rw [get?, if_neg notRoot] at held
  simp only [set, replace_comm apart held]

/-! ## Directories -/

theorem Keeps.isDirectory (keeps : before.Keeps after)
    (isDirectory : before.isDirectory path = true) : after.isDirectory path = true := by
  rcases isDirectory_iff.mp isDirectory with located | ⟨directory, name, slash, located, child⟩
  · exact isDirectory_iff.mpr (.inl (keeps.locate located))
  · obtain ⟨short, held⟩ := child?_eq_ok_iff.mp child
    exact isDirectory_iff.mpr (.inr ⟨directory, name, slash, keeps.locate located,
      child?_eq_ok_iff.mpr ⟨short, keeps.directory _ held⟩⟩)

theorem makeDirectory_of_isDirectory (isDirectory : disk.isDirectory path = true) :
    disk.makeDirectory path = .error .alreadyExists := by
  rcases isDirectory_iff.mp isDirectory with located | ⟨directory, name, slash, located, child⟩
  · rw [makeDirectory, located]
  · rw [makeDirectory, located]
    dsimp only
    rw [child]

theorem isDirectory_of_ensureDirectory (tree : before.IsTree)
    (success : before.ensureDirectory path = (.ok (), after)) :
    after.isDirectory path = true := by
  have adds := (creates_ensureDirectory tree path).adds
  rw [success] at adds
  rw [ensureDirectory] at success
  split at success
  · rename_i made isMade
    cases success
    obtain ⟨directory, name, slash, located, child, rfl⟩ := makeDirectory_eq_ok_iff.mp isMade
    refine isDirectory_iff.mpr (.inr ⟨directory, name, slash, adds.keeps.locate located, ?_⟩)
    refine child?_eq_ok_iff.mpr ⟨(child?_eq_ok_iff.mp child).1, ?_⟩
    rw [get?_set _ _ _ _ (by simp), if_pos rfl]
  · split at success
    · rename_i isDirectory
      cases success
      exact isDirectory
    · cases success

/-- A path whose directories were made is empty or that of a directory. -/
theorem isDirectory_of_createWithin (tree : before.IsTree) {beyond : List Path}
    (success : before.createWithin path beyond = (.ok (), after)) :
    path.text = "" ∨ after.isDirectory path = true := by
  cases beyond with
  | nil =>
      rw [createWithin] at success
      split at success
      · exact .inl ‹_›
      · exact .inr (isDirectory_of_ensureDirectory tree success)
  | cons parent beyond =>
      rw [createWithin] at success
      split at success
      · exact .inl ‹_›
      · right
        split at success
        · have around := creates_createWithin tree parent beyond
          split at success
          · cases success
          · rename_i inside made
            rw [made] at around
            exact isDirectory_of_ensureDirectory around.tree success
        · exact isDirectory_of_ensureDirectory tree success

theorem createWithin_of_isDirectory (isDirectory : disk.isDirectory path = true)
    (beyond : List Path) : disk.createWithin path beyond = (.ok (), disk) := by
  have ensured : disk.ensureDirectory path = (.ok (), disk) := by
    rw [ensureDirectory, makeDirectory_of_isDirectory isDirectory]
    simp [isDirectory]
  cases beyond with
  | nil =>
      rw [createWithin, ensured]
      split <;> rfl
  | cons parent beyond =>
      rw [createWithin, makeDirectory_of_isDirectory isDirectory, ensured]
      split <;> rfl

/-- Where the directories of a path were made, nothing is to be made again. -/
theorem createDirectories_again (tree : before.IsTree)
    (success : before.createDirectories path = (.ok (), middle)) (keeps : middle.Keeps after) :
    after.createDirectories path = (.ok (), after) := by
  rcases isDirectory_of_createWithin tree success with empty | isDirectory
  · rw [createDirectories]
    cases path.ancestors <;> rw [createWithin, if_pos empty]
  · exact createWithin_of_isDirectory (keeps.isDirectory isDirectory) path.ancestors

/-! ## Files -/

/-- A file that was written can be written wherever more is on the disk, if no
directory is in its place. -/
theorem exists_place_of_writeFile {contents : ByteArray}
    (success : before.writeFile path contents = .ok after) :
    ∃ place, before.resolve? path = some place ∧ place ≠ [] ∧
      before.get? place ≠ some .directory ∧ after = before.set place (.file contents) ∧
      ∀ later : Disk, before.Keeps later → later.get? place ≠ some .directory →
        later.writeFile path contents = .ok (later.set place (.file contents)) := by
  obtain ⟨directory, name, located, short, free, rfl⟩ := writeFile_eq_ok_iff.mp success
  refine ⟨directory ++ [name], by rw [resolve?, located], by simp, free, rfl,
    fun later keeps laterFree => ?_⟩
  exact writeFile_eq_ok_iff.mpr ⟨directory, name, keeps.locate located, short, laterFree, rfl⟩

/-- What is put in the place of a file that is written later leaves no trace. -/
theorem Wrote.set (wrote : before.Wrote written after) {held : ByteArray} (contents : ByteArray)
    (isFile : before.get? place = some (.file held))
    (reached : ∃ file ∈ written, before.resolve? file.path = some place) :
    (before.set place (.file contents)).Wrote written after := by
  have notRoot := ne_nil_of_file isFile
  -- The trace is carried past the files elsewhere, up to the one in its place.
  induction wrote generalizing held with
  | none disk =>
      obtain ⟨file, among, -⟩ := reached
      cases among
  | @next before middle after file rest success wrote ih =>
      obtain ⟨target, resolved, targetNotRoot, free, rfl, elsewhere⟩ :=
        exists_place_of_writeFile success
      have stillFree : (before.set place (.file contents)).get? target ≠ some .directory := by
        rw [get?_set _ _ _ _ notRoot]
        split
        · simp
        · exact free
      refine .next (elsewhere _ (keeps_set contents notRoot (by simp [isFile])) stillFree) ?_
      by_cases same : place = target
      · subst same
        rw [set_set]
        exact wrote
      · rw [set_comm _ _ same isFile]
        have keeps := keeps_set file.contents.toUTF8 targetNotRoot free
        have stillFile :
            (before.set target (.file file.contents.toUTF8)).get? place = some (.file held) := by
          rw [get?_set _ _ _ _ targetNotRoot, if_neg same, isFile]
        obtain ⟨last, among, reaches⟩ := reached
        rcases List.mem_cons.mp among with rfl | amongRest
        · exact absurd (Option.some.inj (reaches.symm.trans resolved)) same
        · exact ih stillFile ⟨last, amongRest, keeps.resolve? reaches⟩

/-- Files that were written can be written again, and then the disk is the same. -/
theorem Wrote.again (tree : before.IsTree) (wrote : before.Wrote written after) :
    after.Wrote written after := by
  induction wrote with
  | none disk => exact .none disk
  | @next before middle after file rest success wrote ih =>
      have treeAfter := (changes_writeFile tree success).tree
      have changes := wrote.changes treeAfter
      have again := ih treeAfter
      obtain ⟨place, resolved, notRoot, free, rfl, elsewhere⟩ := exists_place_of_writeFile success
      have keeps := (keeps_set file.contents.toUTF8 notRoot free).trans changes.keeps
      obtain ⟨held, isFile⟩ := changes.keeps.file place file.contents.toUTF8
        (by rw [get?_set _ _ _ _ notRoot, if_pos rfl])
      refine .next (elsewhere after keeps (by simp [isFile])) ?_
      by_cases reached : ∃ other ∈ rest, after.resolve? other.path = some place
      · exact again.set file.contents.toUTF8 isFile reached
      · -- Nothing was written over the file, so it holds what it is to hold.
        rcases changes.file place held isFile with ⟨last, isLast, -⟩ | ⟨-, unchanged⟩
        · rw [lastTo?] at isLast
          have among := List.mem_filter.mp (List.mem_of_getLast? isLast)
          exact (reached ⟨last, among.1, by simpa using among.2⟩).elim
        · rw [get?_set _ _ _ _ notRoot, if_pos rfl] at unchanged
          cases unchanged
          rw [set_of_get? isFile]
          exact again

end PrismaZod.Disk
