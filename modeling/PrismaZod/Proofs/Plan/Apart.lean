import PrismaZod.Proofs.Disk.Entering
import PrismaZod.Proofs.Disk.Reading
import PrismaZod.Proofs.Plan.Links
import PrismaZod.Proofs.Run.Writing

/-!
# Planned files that do not overwrite each other

Files in one directory have different paths, and lead to different places, just
when their stems differ.  Stems are the names of the entities and the stem of
the index, so that distinct names are enough as long as none of them is that of
the index.  Then every stem finds its file, and what was generated reads as it
was planned.
-/

namespace PrismaZod

open Text

/-- A letter, and after it letters, digits and underscores. -/
def isIdentifier (text : String) : Bool :=
  match text.toList with
  | [] => false
  | first :: rest => first.isAlpha && rest.all isWordChar

/-- The names of the datamodel are distinct identifiers. -/
structure Datamodel.Identified (datamodel : Datamodel) : Prop where
  identifiers : ∀ name ∈ datamodel.entityNames, isIdentifier name = true
  distinct : datamodel.entityNames.Nodup

/-- No two files of the plan have the same path. -/
def Plan.Apart (plan : Plan) : Prop :=
  plan.files.Pairwise fun first second => first.path.same second.path = false

theorem isWord_of_isIdentifier {text : String} (identifier : isIdentifier text = true) :
    IsWord text := by
  rw [isIdentifier] at identifier
  cases chars : text.toList with
  | nil =>
      rw [chars] at identifier
      cases identifier
  | cons first rest =>
      simp only [chars, Bool.and_eq_true, List.all_eq_true] at identifier
      obtain ⟨letter, others⟩ := identifier
      refine ⟨?_, ?_⟩
      · rintro rfl
        cases chars
      · rw [chars, List.forall_mem_cons]
        exact ⟨by simp [isWordChar, Char.isAlphanum, letter], others⟩

/-! ## Stems -/

theorem filesAt_apart_iff (root : Path) {named : List (String × String)}
    (free : ∀ file ∈ named, Free '/' file.1) :
    (filesAt root named).Pairwise (fun first second => first.path.same second.path = false) ↔
      (named.map Prod.fst).Nodup := by
  rw [filesAt, List.pairwise_map, List.Nodup, List.pairwise_map]
  refine List.Pairwise.iff_of_mem fun {first second} isFirst isSecond => ?_
  rw [← Bool.not_eq_true, same_filePath_iff root (free first isFirst) (free second isSecond)]

theorem filesAt_places_apart (disk : Disk) (root : Path) {named : List (String × String)}
    (free : ∀ file ∈ named, Free '/' file.1) (nodup : (named.map Prod.fst).Nodup) :
    (filesAt root named).Pairwise fun first second =>
      disk.placeOf first.path ≠ disk.placeOf second.path := by
  rw [List.Nodup, List.pairwise_map] at nodup
  rw [filesAt, List.pairwise_map]
  refine nodup.imp_of_mem fun {first second} isFirst isSecond different => ?_
  rw [disk.placeOf_filePath root (free first isFirst),
    disk.placeOf_filePath root (free second isSecond)]
  simpa using different

/-- The stems and contents of the files of a plan. -/
def plannedNamed (datamodel : Datamodel) (config : Config) : List (String × String) :=
  if config.multipleFiles then Plan.separateNamed datamodel config
  else [(indexStem, datamodel.combinedText config.coerceDate)]

theorem plan_root (datamodel : Datamodel) (config : Config) :
    (plan datamodel config).root = config.output := by
  rw [plan]
  split <;> rfl

theorem plan_files (datamodel : Datamodel) (config : Config) :
    (plan datamodel config).files = filesAt config.output (plannedNamed datamodel config) := by
  rw [plan, plannedNamed]
  split
  · exact Plan.separate_files datamodel config
  · rfl

theorem plannedNamed_stems (datamodel : Datamodel) (config : Config) :
    (plannedNamed datamodel config).map Prod.fst =
      (if config.multipleFiles then datamodel.entityNames else []) ++ [indexStem] := by
  rw [plannedNamed]
  split
  · exact Plan.separateNamed_stems datamodel config
  · rfl

namespace Datamodel.Identified

variable {datamodel : Datamodel} (identified : datamodel.Identified) (config : Config)

include identified

theorem free {name : String} (isName : name ∈ datamodel.entityNames) : Free '/' name :=
  (isWord_of_isIdentifier (identified.identifiers name isName)).free '/' (by decide)

theorem plannedNamed_free : ∀ file ∈ plannedNamed datamodel config, Free '/' file.1 := by
  intro file isFile
  have isStem : file.1 ∈ (plannedNamed datamodel config).map Prod.fst :=
    List.mem_map_of_mem isFile
  rw [plannedNamed_stems, List.mem_append, List.mem_singleton] at isStem
  rcases isStem with isName | isIndex
  · split at isName
    · exact identified.free isName
    · cases isName
  · rw [isIndex]
    decide

theorem stems_nodup_iff :
    ((plannedNamed datamodel config).map Prod.fst).Nodup ↔
      (config.multipleFiles = true → indexStem ∉ datamodel.entityNames) := by
  rw [plannedNamed_stems]
  cases config.multipleFiles with
  | false => simp
  | true =>
      rw [if_pos rfl, List.nodup_append]
      constructor
      · rintro ⟨-, -, apart⟩ - isName
        exact apart indexStem isName indexStem List.mem_cons_self rfl
      · intro notIndex
        refine ⟨identified.distinct, by simp, ?_⟩
        rintro name isName stem isIndex rfl
        rw [List.mem_singleton.mp isIndex] at isName
        exact notIndex rfl isName

theorem apart_iff :
    (plan datamodel config).Apart ↔
      (config.multipleFiles = true → indexStem ∉ datamodel.entityNames) := by
  rw [Plan.Apart, plan_files, filesAt_apart_iff _ (identified.plannedNamed_free config),
    identified.stems_nodup_iff]

/-- A stem finds its file, if no two files have the same path. -/
theorem file?_eq_some (apart : (plan datamodel config).Apart) {stem contents : String}
    (member : (stem, contents) ∈ plannedNamed datamodel config) :
    (plan datamodel config).file? stem = some ⟨filePath config.output stem, contents⟩ := by
  have nodup := (identified.stems_nodup_iff config).mpr ((identified.apart_iff config).mp apart)
  rw [Plan.file?_eq_head?, plan_files, plan_root,
    filter_filesAt (identified.plannedNamed_free config) nodup member]
  rfl

theorem file?_eq_none {stem : String} (free : Free '/' stem)
    (unused : stem ∉ (plannedNamed datamodel config).map Prod.fst) :
    (plan datamodel config).file? stem = none := by
  rw [Plan.file?_eq_head?, plan_files, plan_root,
    filter_filesAt_eq_nil _ (identified.plannedNamed_free config) free unused]
  rfl

end Datamodel.Identified

/-- Every stem finds its file, and once the files are generated each reads as it
was planned. -/
structure Kept (datamodel : Datamodel) (config : Config) (start : World) : Prop where
  entity : config.multipleFiles = true →
    ∀ declaration ∈ datamodel.declarations config.coerceDate,
      (plan datamodel config).file? declaration.name = some (declaration.file config.output)
  /-- In one file no entity has a file of its own. -/
  no_entity : config.multipleFiles = false → ∀ name ∈ datamodel.entityNames,
    name ≠ indexStem → (plan datamodel config).file? name = none
  index : (plan datamodel config).file? indexStem =
    some ⟨filePath config.output indexStem,
      if config.multipleFiles then datamodel.indexText
      else datamodel.combinedText config.coerceDate⟩
  disk : ∀ result, ((generate datamodel config : StateM World _).run start).1 = .ok result →
    result = plan datamodel config ∧ ∀ file ∈ result.files,
      ((generate datamodel config : StateM World _).run start).2.disk.readFile file.path =
        .ok file.contents.toUTF8

/-- What a plan wrote reads as it was planned. -/
theorem Plan.Effect.readFile {plan result : Plan} {before after : Disk}
    {written : List PlannedFile} (tree : before.IsTree)
    (effect : plan.Effect before (.ok result) written after)
    (apart : ∀ disk : Disk, plan.files.Pairwise fun first second =>
      disk.placeOf first.path ≠ disk.placeOf second.path) :
    result = plan ∧ ∀ file ∈ result.files,
      after.readFile file.path = .ok file.contents.toUTF8 := by
  have created := Disk.creates_createDirectories tree plan.root
  cases effect with
  | finished made _ wrote _ =>
      rw [made] at created
      exact ⟨rfl, wrote.readFile created.tree (apart _)⟩

/-- The files of a plan for distinct names overwrite each other only where an
entity with the name of the index has its own file; otherwise all are kept. -/
theorem plan_apart (datamodel : Datamodel) (config : Config) (identified : datamodel.Identified)
    (start : World) (tree : start.disk.IsTree) :
    ((plan datamodel config).Apart ↔
      (config.multipleFiles = true → indexStem ∉ datamodel.entityNames)) ∧
    ((plan datamodel config).Apart → Kept datamodel config start) := by
  refine ⟨identified.apart_iff config, fun apart => ?_⟩
  have nodup := (identified.stems_nodup_iff config).mpr ((identified.apart_iff config).mp apart)
  constructor
  case entity =>
    intro multiple declaration declares
    refine identified.file?_eq_some config apart ?_
    rw [plannedNamed, if_pos multiple]
    exact List.mem_append_left _ (List.mem_map.mpr ⟨declaration, declares, rfl⟩)
  case no_entity =>
    intro single name isName notIndex
    refine identified.file?_eq_none config (identified.free isName) ?_
    rw [plannedNamed_stems]
    simpa [single] using notIndex
  case index =>
    refine identified.file?_eq_some config apart ?_
    rw [plannedNamed]
    split <;> simp [Plan.separateNamed]
  case disk =>
    intro result success
    obtain ⟨written, effect⟩ := generate_effect datamodel config tree
    rw [success] at effect
    refine effect.readFile tree fun disk => ?_
    rw [plan_files]
    exact filesAt_places_apart disk config.output (identified.plannedNamed_free config) nodup

/-- An enumeration and a model, in several files and in one. -/
theorem plan_apart_role :
    let role := Enumeration.ofNames "Role" ["ADMIN"]
    let user : Model := ⟨"User", none, [Field.enumeration "role" "Role"], none⟩
    let several : Config := ⟨⟨"./out/"⟩, true, true, false⟩
    let one : Config := ⟨⟨"/out"⟩, false, true, false⟩
    let start : World := ⟨.fresh, []⟩
    (Datamodel.Identified ⟨[user], [role]⟩ ∧ start.disk.IsTree) ∧
      Kept ⟨[user], [role]⟩ several start ∧ Kept ⟨[user], [role]⟩ one start := by
  intro role user several one start
  have identified : Datamodel.Identified ⟨[user], [role]⟩ := ⟨by decide, by decide⟩
  have tree : start.disk.IsTree := Disk.isTree_fresh
  obtain ⟨severalApart, severalKept⟩ := plan_apart ⟨[user], [role]⟩ several identified start tree
  obtain ⟨oneApart, oneKept⟩ := plan_apart ⟨[user], [role]⟩ one identified start tree
  exact ⟨⟨identified, tree⟩, severalKept (severalApart.mpr (by decide)),
    oneKept (oneApart.mpr (by decide))⟩

/-- A model with the name of the index loses its file to the index, and its stem
finds this file and not the index. -/
theorem index_entity_overwritten :
    let model : Model := ⟨"index", none, [], none⟩
    let datamodel : Datamodel := ⟨[model], []⟩
    let config : Config := ⟨⟨"out"⟩, true, true, false⟩
    datamodel.Identified ∧ ¬ (plan datamodel config).Apart ∧
      (plan datamodel config).file? indexStem = some ((model.declaration true).file ⟨"out"⟩) ∧
      (plan datamodel config).file? indexStem ≠
        some ⟨filePath ⟨"out"⟩ indexStem, datamodel.indexText⟩ ∧
      ∀ disk : Disk, ¬ ∀ file ∈ (plan datamodel config).files,
        disk.readFile file.path = .ok file.contents.toUTF8 := by
  intro model datamodel config
  have identified : datamodel.Identified := ⟨by decide, by decide⟩
  have files : (plan datamodel config).files = [(model.declaration true).file ⟨"out"⟩,
      ⟨filePath ⟨"out"⟩ indexStem, datamodel.indexText⟩] := rfl
  have different : (model.declaration true).fileText ≠ datamodel.indexText := by
    intro same
    have second := congrArg (fun text => text.toList[1]?) same
    have imports : (model.declaration true).fileText.toList[1]? = some 'm' := by
      simp [Declaration.fileText_eq, Declaration.importText]
    have exports : datamodel.indexText.toList[1]? = some 'x' := by
      simp [Datamodel.indexText, Datamodel.entityNames, datamodel, model, fileExport_toList]
    rw [imports, exports] at second
    cases second
  have found : (plan datamodel config).file? indexStem =
      some ((model.declaration true).file ⟨"out"⟩) := by
    have itself : ((model.declaration true).file ⟨"out"⟩).path.same
        (filePath ⟨"out"⟩ indexStem) = true :=
      (same_filePath_iff _ (by decide) (by decide)).mpr rfl
    rw [Plan.file?, files, plan_root]
    exact List.find?_cons_of_pos itself
  refine ⟨identified, ?_, found, ?_, ?_⟩
  · rw [identified.apart_iff]
    exact fun notIndex => notIndex rfl (by decide)
  · rw [found]
    intro same
    exact different (congrArg PlannedFile.contents (Option.some.inj same))
  · intro disk kept
    rw [files, List.forall_mem_cons, List.forall_mem_singleton] at kept
    have both : (model.declaration true).fileText.toUTF8 = datamodel.indexText.toUTF8 :=
      Except.ok.inj (kept.1.symm.trans kept.2)
    exact different (String.toByteArray_inj.mp both)

end PrismaZod
