import PrismaZod.Proofs.Disk.Changes

/-!
# Reading what was written

A file reads as it was written, and still does after files at other places were
written.  If no two files of a list name the same place, all of them read as
they were written.
-/

namespace PrismaZod.Disk

variable {disk before after : Disk} {path : Path} {file : PlannedFile}
  {written : List PlannedFile}

theorem readFile_of_writeFile (tree : disk.IsTree)
    (success : disk.writeFile file.path file.contents.toUTF8 = .ok after) :
    after.readFile file.path = .ok file.contents.toUTF8 := by
  have keeps := (changes_writeFile tree success).keeps
  obtain ⟨directory, name, located, short, -, rfl⟩ := writeFile_eq_ok_iff.mp success
  have notRoot : directory ++ [name] ≠ [] := by simp
  refine readFile_eq_ok_iff.mpr ⟨directory, name, keeps.locate located, short, ?_⟩
  rw [get?_set _ _ _ _ notRoot, if_pos rfl]

/-- Writing to another place does not change what is read. -/
theorem readFile_writeFile_of_ne (tree : disk.IsTree) {contents : ByteArray}
    (success : disk.writeFile file.path file.contents.toUTF8 = .ok after)
    (read : disk.readFile path = .ok contents)
    (apart : disk.placeOf path ≠ disk.placeOf file.path) :
    after.readFile path = .ok contents := by
  have keeps := (changes_writeFile tree success).keeps
  obtain ⟨directory, name, located, short, entry⟩ := readFile_eq_ok_iff.mp read
  obtain ⟨rfl, notRoot, -, -, -⟩ := writeFile_eq_ok tree success
  have elsewhere : directory ++ [name] ≠ disk.placeOf file.path := by
    rw [← (placeOf_of_locate_name tree located).1]
    exact apart
  refine readFile_eq_ok_iff.mpr ⟨directory, name, keeps.locate located, short, ?_⟩
  rw [get?_set _ _ _ _ notRoot, if_neg elsewhere, entry]

theorem Wrote.readFile_of_ne (tree : before.IsTree) (wrote : before.Wrote written after)
    {contents : ByteArray} (read : before.readFile path = .ok contents)
    (apart : ∀ file ∈ written, before.placeOf path ≠ before.placeOf file.path) :
    after.readFile path = .ok contents := by
  induction wrote with
  | none disk => exact read
  | @next before middle after file rest success wrote ih =>
      have changes := changes_writeFile tree success
      have here := apart file List.mem_cons_self
      refine ih changes.tree (readFile_writeFile_of_ne tree success read here) ?_
      intro other among
      have same := placeOf_congr changes.keeps.working
      rw [same, same]
      exact apart other (List.mem_cons_of_mem file among)

/-- Files at different places read as they were written. -/
theorem Wrote.readFile (tree : before.IsTree) (wrote : before.Wrote written after)
    (apart : written.Pairwise fun first second =>
      before.placeOf first.path ≠ before.placeOf second.path) :
    ∀ file ∈ written, after.readFile file.path = .ok file.contents.toUTF8 := by
  induction wrote with
  | none disk => simp
  | @next before middle after file rest success wrote ih =>
      have changes := changes_writeFile tree success
      have same := placeOf_congr changes.keeps.working
      have apartAfter : rest.Pairwise fun first second =>
          middle.placeOf first.path ≠ middle.placeOf second.path := by
        simp only [same]
        exact (List.pairwise_cons.mp apart).2
      intro other among
      rcases List.mem_cons.mp among with rfl | amongRest
      · refine wrote.readFile_of_ne changes.tree (readFile_of_writeFile tree success) ?_
        simp only [same]
        exact (List.pairwise_cons.mp apart).1
      · exact ih changes.tree apartAfter other amongRest

end PrismaZod.Disk
