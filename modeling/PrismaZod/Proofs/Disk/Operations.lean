import PrismaZod.Disk.Basic

/-!
# What operations take

Whether a directory can be made, or a file be read or written, depends on where
its path leads and on what is there.
-/

namespace PrismaZod.Disk

variable {disk after : Disk} {path : Path} {contents : ByteArray}

theorem child?_eq_ok_iff {directory : Place} {name : String} {held : Option Entry} :
    disk.child? directory name = .ok held ↔
      name.utf8ByteSize ≤ nameLimit ∧ disk.get? (directory ++ [name]) = held := by
  rw [child?]
  split
  · rename_i long
    simp [Nat.not_le.mpr long]
  · rename_i short
    simp [Nat.le_of_not_lt short]

/-- A path is that of a directory if it ends in none, or in the name of one. -/
theorem isDirectory_iff :
    disk.isDirectory path = true ↔ disk.locate path = .ok .directory ∨
      ∃ directory name slash, disk.locate path = .ok (.name directory name slash) ∧
        disk.child? directory name = .ok (some .directory) := by
  constructor
  · intro isDirectory
    rw [Disk.isDirectory] at isDirectory
    split at isDirectory
    · exact .inl ‹_›
    · rename_i directory name slash located
      split at isDirectory
      · exact .inr ⟨directory, name, slash, located, ‹_›⟩
      · cases isDirectory
    · cases isDirectory
  · rintro (located | ⟨directory, name, slash, located, child⟩)
    · rw [Disk.isDirectory, located]
    · rw [Disk.isDirectory, located]
      dsimp only
      rw [child]

/-- What it takes to make a directory: a path that ends in a name, and nothing there. -/
theorem makeDirectory_eq_ok_iff :
    disk.makeDirectory path = .ok after ↔
      ∃ directory name slash, disk.locate path = .ok (.name directory name slash) ∧
        disk.child? directory name = .ok none ∧
        after = disk.set (directory ++ [name]) .directory := by
  constructor
  · intro made
    rw [makeDirectory] at made
    split at made
    · cases made
    · cases made
    · rename_i directory name slash located
      split at made
      · cases made
      · cases made
      · cases made
        exact ⟨directory, name, slash, located, ‹_›, rfl⟩
  · rintro ⟨directory, name, slash, located, child, rfl⟩
    rw [makeDirectory, located]
    dsimp only
    rw [child]

/-- What it takes to read a file: a path that ends in a name, and a file there. -/
theorem readFile_eq_ok_iff :
    disk.readFile path = .ok contents ↔
      ∃ directory name, disk.locate path = .ok (.name directory name false) ∧
        name.utf8ByteSize ≤ nameLimit ∧
        disk.get? (directory ++ [name]) = some (.file contents) := by
  constructor
  · intro read
    rw [readFile] at read
    split at read
    · cases read
    · cases read
    · rename_i directory name slash located
      split at read
      · cases read
      · cases read
      · cases read
      · rename_i child
        cases slash with
        | true => cases read
        | false =>
            cases read
            exact ⟨directory, name, located, child?_eq_ok_iff.mp child⟩
  · rintro ⟨directory, name, located, held⟩
    rw [readFile, located]
    dsimp only
    rw [child?_eq_ok_iff.mpr held]
    rfl

/-- What it takes to write a file: a path that ends in a name, and no directory
there. -/
theorem writeFile_eq_ok_iff :
    disk.writeFile path contents = .ok after ↔
      ∃ directory name, disk.locate path = .ok (.name directory name false) ∧
        name.utf8ByteSize ≤ nameLimit ∧ disk.get? (directory ++ [name]) ≠ some .directory ∧
        after = disk.set (directory ++ [name]) (.file contents) := by
  constructor
  · intro success
    rw [writeFile] at success
    split at success
    · cases success
    · cases success
    · rename_i directory name slash located
      cases slash with
      | true => cases success
      | false =>
          rw [if_neg (by simp)] at success
          split at success
          · cases success
          · cases success
          · rename_i held free child
            cases success
            obtain ⟨short, isHeld⟩ := child?_eq_ok_iff.mp child
            exact ⟨directory, name, located, short, isHeld ▸ free, rfl⟩
  · rintro ⟨directory, name, located, short, free, rfl⟩
    rw [writeFile, located]
    dsimp only
    rw [child?_eq_ok_iff.mpr ⟨short, rfl⟩, if_neg (by simp)]
    split
    · rename_i isError
      cases isError
    · rename_i isDirectory
      exact absurd (Except.ok.inj isDirectory) free
    · rfl

end PrismaZod.Disk
