import PrismaZod.Proofs.Plan.Apart
import PrismaZod.Proofs.Run.Report

/-!
# Generation within a directory

Names without slashes, dots and the empty name among them, give files that are
all directly in the output directory.  A run changes nothing outside of it, and
once it is made the run fails only where a planned file has the path of a
directory: no write of the run gets in the way of a later one.
-/

namespace PrismaZod

open Disk Text

/-- The names of the datamodel can be those of files. -/
structure Datamodel.NamesFiles (datamodel : Datamodel) : Prop where
  noSlash : ∀ name ∈ datamodel.entityNames, Free '/' name
  noNul : ∀ name ∈ datamodel.entityNames, Free '\x00' name
  short : ∀ name ∈ datamodel.entityNames, (name ++ ".ts").utf8ByteSize ≤ nameLimit

/-- The path is that of a name directly in the directory, as it is written and
on every disk. -/
def Path.IsChildOf (path directory : Path) : Prop :=
  ∃ name, path.components = directory.components ++ [.named name] ∧
    ∀ disk : Disk, disk.placeOf path = disk.placeOf directory ++ [name]

/-- Nothing changes but that prefixes of the root name new directories, and that
files are new, or written anew, at the places of planned ones. -/
structure Contained (root : Path) (files : List PlannedFile) (before after : Disk) : Prop where
  working : after.workingDirectory = before.workingDirectory
  entry : ∀ place, after.get? place = before.get? place ∨
    (before.get? place = none ∧ after.get? place = some .directory ∧
      before.NamesByPrefix root place) ∨
    ∃ file ∈ files, place = before.placeOf file.path ∧
      before.get? place ≠ some .directory ∧
      after.get? place = some (.file file.contents.toUTF8)

/-- What a plan comes to, told by the directories that there are once its root
is made. -/
def Plan.outcome (plan : Plan) (disk : Disk) : Except Failure Plan :=
  match disk.createDirectories plan.root with
  | (.error fault, _) => .error (.createDirectory plan.root fault)
  | (.ok (), made) =>
      match plan.files.find? fun file => made.isDirectory file.path with
      | some file => .error (.write file.path .isDirectory)
      | none => .ok plan

/-- The paths of planned files are those of stems that can be in names of files. -/
theorem Datamodel.NamesFiles.exists_stem {datamodel : Datamodel} {config : Config}
    {file : PlannedFile} (named : datamodel.NamesFiles)
    (planned : file ∈ (plan datamodel config).files) :
    ∃ stem, file.path = filePath config.output stem ∧ Free '/' stem ∧ Free '\x00' stem ∧
      (stem ++ ".ts").utf8ByteSize ≤ nameLimit := by
  rw [plan_files] at planned
  obtain ⟨⟨stem, contents⟩, among, rfl⟩ := List.mem_map.mp planned
  have isStem : stem ∈ (plannedNamed datamodel config).map Prod.fst :=
    List.mem_map_of_mem among
  rw [plannedNamed_stems, List.mem_append, List.mem_singleton] at isStem
  refine ⟨stem, rfl, ?_⟩
  rcases isStem with isName | rfl
  · have isEntity : stem ∈ datamodel.entityNames := by
      split at isName
      · exact isName
      · cases isName
    exact ⟨named.noSlash stem isEntity, named.noNul stem isEntity, named.short stem isEntity⟩
  · decide

theorem isChildOf_filePath (root : Path) {stem : String} (free : Free '/' stem) :
    (filePath root stem).IsChildOf root :=
  ⟨stem ++ ".ts", components_filePath free, fun disk => disk.placeOf_filePath root free⟩

/-- What changes when a root is made and planned files are written is in the root. -/
theorem Disk.Changes.contained {root : Path} {written files : List PlannedFile}
    {before after : Disk} (changes : Changes [root] written before after)
    (planned : written ⊆ files) : Contained root files before after := by
  have keeps := changes.keeps
  refine ⟨keeps.working, fun place => ?_⟩
  have ofFile {contents : ByteArray} (left : after.get? place = some (.file contents)) :
      after.get? place = before.get? place ∨
        ∃ file ∈ files, place = before.placeOf file.path ∧
          before.get? place ≠ some .directory ∧
          after.get? place = some (.file file.contents.toUTF8) := by
    rcases changes.file place contents left with ⟨last, isLast, rfl⟩ | ⟨-, held⟩
    · obtain ⟨among, reaches⟩ := List.mem_filter.mp (List.mem_of_getLast? isLast)
      have reached := placeOf_of_resolve? changes.tree (of_decide_eq_true reaches)
      rw [placeOf_congr keeps.working] at reached
      refine .inr ⟨last, planned among, reached.symm, fun held => ?_, left⟩
      rw [keeps.directory place held] at left
      cases left
    · exact .inl (left.trans held.symm)
  rcases keeps.entry place with held | ⟨held, left⟩ | ⟨contents, current, held, left⟩
  · cases left : after.get? place with
    | none => exact .inl held.symm
    | some entry =>
        rw [← left]
        cases entry with
        | directory =>
            rcases changes.directory place left with same | ⟨made, among, names⟩
            · exact .inl (left.trans same.symm)
            · rw [List.mem_singleton.mp among] at names
              exact .inr (.inl ⟨held, left, names⟩)
        | file contents => exact (ofFile left).imp_right .inr
  · exact .inl (left.trans held.symm)
  · exact (ofFile left).imp_right .inr

/-- Once the root is made, nothing but a directory at its path fails a write. -/
theorem Plan.Effect.eq_outcome {datamodel : Datamodel} {config : Config} {before after : Disk}
    {result : Except Failure Plan} {written : List PlannedFile} (tree : before.IsTree)
    (named : datamodel.NamesFiles)
    (short : ∀ file ∈ (plan datamodel config).files, file.path.text.utf8ByteSize < pathLimit)
    (effect : (plan datamodel config).Effect before result written after) :
    result = (plan datamodel config).outcome before := by
  have created := creates_createDirectories tree (plan datamodel config).root
  cases effect with
  | noDirectory failed _ => rw [outcome, failed]
  | @stopped made _ _ rest failed fault success _ parts wrote fails =>
      rw [success] at created
      have planned : failed ∈ (plan datamodel config).files := by simp [parts]
      obtain ⟨stem, isPath, noSlash, noNul, nameShort⟩ := named.exists_stem planned
      have entered := enters_of_createDirectories tree success
      rw [plan_root] at entered
      have pathShort := short failed planned
      rw [isPath] at pathShort
      have locatedMade := entered.locate_filePath noSlash noNul pathShort
      have keeps := (wrote.changes created.tree).keeps
      have located := (keeps.enters entered).locate_filePath noSlash noNul pathShort
      rw [← isPath] at located locatedMade
      obtain ⟨rfl, isDirectory⟩ := isDirectory_of_writeFile_error located nameShort fails
      have wasDirectory : made.isDirectory failed.path = true :=
        wrote.isDirectory_of_locate created.tree locatedMade nameShort isDirectory
      have first : (plan datamodel config).files.find? (fun file => made.isDirectory file.path) =
          some failed := by
        rw [parts, List.find?_append,
          List.find?_eq_none.mpr (wrote.not_isDirectory created.tree), Option.none_or]
        exact List.find?_cons_of_pos wasDirectory
      simp only [outcome, success, first]
  | finished success _ wrote _ =>
      rw [success] at created
      have none := List.find?_eq_none.mpr (wrote.not_isDirectory created.tree)
      simp only [outcome, success, none]

/-- Where names can be those of files, generating stays in the output directory,
and fails only where this cannot be made or a planned file has the path of a
directory in it. -/
theorem generate_contained (datamodel : Datamodel) (config : Config) (disk : Disk)
    (tree : disk.IsTree) (named : datamodel.NamesFiles) :
    (∀ file ∈ (plan datamodel config).files, file.path.IsChildOf config.output) ∧
    Contained config.output (plan datamodel config).files disk
      (disk.left (generate datamodel config)) ∧
    ((∀ file ∈ (plan datamodel config).files, file.path.text.utf8ByteSize < pathLimit) →
      disk.result (generate datamodel config) = (plan datamodel config).outcome disk) := by
  have start : (World.mk disk []).disk.IsTree := tree
  obtain ⟨written, effect⟩ := generate_effect datamodel config start
  refine ⟨fun file planned => ?_, ?_, fun short => effect.eq_outcome tree named short⟩
  · obtain ⟨stem, isPath, noSlash, -, -⟩ := named.exists_stem planned
    rw [isPath]
    exact isChildOf_filePath config.output noSlash
  · have changes := effect.changes start
    rw [plan_root] at changes
    exact changes.contained effect.written_prefix.subset

/-- Models that are named by dots and an enumeration without a name, in a
directory where one of their files has the path of a directory. -/
theorem generate_contained_dots :
    let datamodel : Datamodel :=
      ⟨[⟨".", none, [], none⟩, ⟨"..", none, [], none⟩], [Enumeration.ofNames "" ["A"]]⟩
    let config : Config := ⟨⟨"out/"⟩, true, true, false⟩
    let disk := (fresh.createDirectories ⟨"out/..ts"⟩).2
    (disk.IsTree ∧ datamodel.NamesFiles ∧
      ∀ file ∈ (plan datamodel config).files, file.path.text.utf8ByteSize < pathLimit) ∧
    (plan datamodel config).files.map (·.path.text) =
      ["out/.ts", "out/..ts", "out/...ts", "out/index.ts"] ∧
    (∀ file ∈ (plan datamodel config).files, file.path.IsChildOf config.output) ∧
    Contained config.output (plan datamodel config).files disk
      (disk.left (generate datamodel config)) ∧
    disk.result (generate datamodel config) = .error (.write ⟨"out/..ts"⟩ .isDirectory) := by
  intro datamodel config disk
  have tree : disk.IsTree := (creates_createDirectories isTree_fresh ⟨"out/..ts"⟩).tree
  have named : datamodel.NamesFiles := ⟨by decide, by decide, by decide⟩
  have paths : (plan datamodel config).files.map (·.path.text) =
      ["out/.ts", "out/..ts", "out/...ts", "out/index.ts"] := by decide +kernel
  have short : ∀ file ∈ (plan datamodel config).files,
      file.path.text.utf8ByteSize < pathLimit := by
    intro file planned
    have isPath : file.path.text ∈ (plan datamodel config).files.map (·.path.text) :=
      List.mem_map_of_mem planned
    rw [paths] at isPath
    revert isPath
    generalize file.path.text = text
    revert text
    decide
  have blocked : (plan datamodel config).outcome disk =
      .error (.write ⟨"out/..ts"⟩ .isDirectory) := by decide +kernel
  obtain ⟨children, contained, result⟩ := generate_contained datamodel config disk tree named
  exact ⟨⟨tree, named, short⟩, paths, children, contained, (result short).trans blocked⟩

end PrismaZod
