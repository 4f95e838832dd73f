import PrismaZod.Proofs.Path.Join
import PrismaZod.Proofs.Plan.Agreement

/-!
# Finding planned files

A plan of several files has one file for each stem.  If the stems differ, each
of them finds its own file and no other.
-/

namespace PrismaZod

open Text

/-- The files with given stems and contents in a directory. -/
def filesAt (root : Path) (named : List (String × String)) : List PlannedFile :=
  named.map fun file => ⟨filePath root file.1, file.2⟩

theorem filter_filesAt_eq_nil (root : Path) {named : List (String × String)} {stem : String}
    (free : ∀ file ∈ named, Free '/' file.1) (stemFree : Free '/' stem)
    (unused : stem ∉ named.map Prod.fst) :
    (filesAt root named).filter (·.path.same (filePath root stem)) = [] := by
  apply List.filter_eq_nil_iff.mpr
  intro file among
  obtain ⟨other, isFile, rfl⟩ := List.mem_map.mp among
  rw [same_filePath_iff root (free other isFile) stemFree]
  rintro rfl
  exact unused (List.mem_map.mpr ⟨other, isFile, rfl⟩)

theorem filter_filesAt {root : Path} {named : List (String × String)}
    (free : ∀ file ∈ named, Free '/' file.1) (nodup : (named.map Prod.fst).Nodup)
    {stem contents : String} (member : (stem, contents) ∈ named) :
    (filesAt root named).filter (·.path.same (filePath root stem)) =
      [⟨filePath root stem, contents⟩] := by
  have stemFree : Free '/' stem := free _ member
  obtain ⟨before, after, rfl⟩ := List.append_of_mem member
  simp only [List.map_append, List.map_cons, List.nodup_append, List.nodup_cons] at nodup
  have unusedBefore : stem ∉ before.map Prod.fst := by
    intro used
    exact nodup.2.2 stem used stem List.mem_cons_self rfl
  have itself : (filePath root stem).same (filePath root stem) = true :=
    (same_filePath_iff root stemFree stemFree).mpr rfl
  have beforeNone := filter_filesAt_eq_nil root
    (fun file isFile => free file (List.mem_append_left _ isFile)) stemFree unusedBefore
  have afterNone := filter_filesAt_eq_nil root
    (fun file isFile => free file (List.mem_append_right _ (List.mem_cons_of_mem _ isFile)))
    stemFree nodup.2.1.1
  simp only [filesAt] at beforeNone afterNone ⊢
  rw [List.map_append, List.filter_append, beforeNone, List.map_cons, List.filter_cons,
    if_pos itself, afterNone, List.nil_append]

namespace Plan

/-- Names and contents of the files of a plan of several. -/
def separateNamed (datamodel : Datamodel) (config : Config) : List (String × String) :=
  (datamodel.declarations config.coerceDate).map
      (fun declaration => (declaration.name, declaration.fileText)) ++
    [(indexStem, datamodel.indexText)]

theorem separate_files (datamodel : Datamodel) (config : Config) :
    (separate datamodel config).files =
      filesAt config.output (separateNamed datamodel config) := by
  simp [separate, filesAt, separateNamed]

theorem separateNamed_stems (datamodel : Datamodel) (config : Config) :
    (separateNamed datamodel config).map Prod.fst = datamodel.entityNames ++ [indexStem] := by
  simp [separateNamed, ← datamodel.declarations_names config.coerceDate, Function.comp_def]

/-- If no two stems are the same, a stem finds its file, and only that. -/
theorem filter_separate {datamodel : Datamodel} {config : Config} {stem contents : String}
    (free : ∀ name ∈ datamodel.entityNames, Free '/' name)
    (nodup : (datamodel.entityNames ++ [indexStem]).Nodup)
    (member : (stem, contents) ∈ separateNamed datamodel config) :
    (separate datamodel config).files.filter (·.path.same (filePath config.output stem)) =
      [⟨filePath config.output stem, contents⟩] := by
  rw [separate_files]
  refine filter_filesAt ?_ (by rwa [separateNamed_stems]) member
  intro file isFile
  have isStem : file.1 ∈ datamodel.entityNames ++ [indexStem] := by
    rw [← separateNamed_stems datamodel config]
    exact List.mem_map_of_mem isFile
  rcases List.mem_append.mp isStem with isName | isIndex
  · exact free _ isName
  · rw [List.mem_singleton.mp isIndex]
    decide

/-- The file with a stem is the first whose path is that of the stem. -/
theorem file?_eq_head? (plan : Plan) (stem : String) :
    plan.file? stem =
      (plan.files.filter (·.path.same (filePath plan.root stem))).head? :=
  List.head?_filter.symm

end Plan

end PrismaZod
