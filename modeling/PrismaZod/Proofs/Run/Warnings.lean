import PrismaZod.Proofs.Plan.Links
import PrismaZod.Proofs.Run.Writing
import PrismaZod.Proofs.Schema.Occurrences
import PrismaZod.Proofs.Table.Order

/-!
# Imports and warnings

In a plan of several files the file of a model imports each enumeration that the
fields of the model name, once and in the order in which they do.  A run warns of
those that are not declared, after what it tells of the model and before what it
tells of the next one.  In a plan of one file it does not warn of them.
-/

namespace PrismaZod

open Text

/-- The names that no enumeration of the datamodel has. -/
def Datamodel.undeclared (datamodel : Datamodel) (names : List String) : List String :=
  names.filter fun name => name ∉ datamodel.enumerations.map (·.name)

/-- What a plan of several files and the events of planning it show of the
enumerations that a model refers to, which stands between other models. -/
structure Model.RefersTo (datamodel : Datamodel) (config : Config) (before : List Model)
    (model : Model) (after : List Model) (names : List String) : Prop where
  occurrences : FirstOccurrences model.enumerationTypes names
  file : (plan datamodel config).files[datamodel.enumerations.length + before.length]? =
    some ⟨config.output.join (model.name ++ ".ts"),
      endedLines ("import \x7b z \x7d from 'zod';" :: names.map fun name =>
          "import \x7b " ++ name ++ "Schema \x7d from './" ++ name ++ "';") ++
        "\n" ++ (model.declaration config.coerceDate).source ++ "\n"⟩
  /-- What is told of the models before, of this one, and of those after. -/
  events : planEvents datamodel config =
    planEvents ⟨before, datamodel.enumerations⟩ config ++
      ((model.diagnostics config.coerceDate).map .leftOut ++
        (datamodel.undeclared names).map (.undeclared model.name)) ++
      planEvents ⟨after, datamodel.enumerations⟩ { config with createInputTypes := false }
  lines : ((datamodel.undeclared names).map (Event.undeclared model.name)).map Event.line =
    (datamodel.undeclared names).map fun name =>
      "WARN " ++ model.name ++ ": enum " ++ name ++ " is not declared in the datamodel"

theorem Datamodel.mem_enumerationNames {datamodel : Datamodel} {name : String} :
    name ∈ datamodel.enumerationNames ↔ name ∈ datamodel.enumerations.map (·.name) := by
  simp [enumerationNames, Table.mem_keys_ofList]

theorem Datamodel.filter_not_declaresEnumeration (datamodel : Datamodel) (names : List String) :
    names.filter (fun name => !datamodel.declaresEnumeration name) =
      datamodel.undeclared names := by
  refine List.filter_congr fun name _ => ?_
  rw [declaresEnumeration, List.contains_eq_mem, ← decide_not]
  simp only [mem_enumerationNames]

/-- The files of models come after those of enumerations. -/
theorem Plan.separate_files_getElem? {datamodel : Datamodel} {before after : List Model}
    {model : Model} (models : datamodel.models = before ++ model :: after) (config : Config) :
    (separate datamodel config).files[datamodel.enumerations.length + before.length]? =
      some ((model.declaration config.coerceDate).file config.output) := by
  rw [separate_files_eq_append, models]
  simp

/-- What is told of a model depends on other models only through where it stands. -/
theorem planEvents_append {datamodel : Datamodel} {config : Config}
    (multiple : config.multipleFiles = true) {before after : List Model} {model : Model}
    (models : datamodel.models = before ++ model :: after) :
    planEvents datamodel config =
      planEvents ⟨before, datamodel.enumerations⟩ config ++
        model.fileEvents datamodel config.coerceDate ++
        planEvents ⟨after, datamodel.enumerations⟩ { config with createInputTypes := false } := by
  obtain ⟨all, enumerations⟩ := datamodel
  subst models
  simp [planEvents, multiple, List.append_assoc, Model.fileEvents,
    Datamodel.filter_not_declaresEnumeration, Datamodel.undeclared]

theorem Model.fileEvents_eq (model : Model) (datamodel : Datamodel) (coerceDate : Bool) :
    model.fileEvents datamodel coerceDate =
      (model.diagnostics coerceDate).map .leftOut ++
        (datamodel.undeclared (distinct model.enumerationTypes)).map (.undeclared model.name) := by
  rw [fileEvents, declarationEvents, references_declaration,
    datamodel.filter_not_declaresEnumeration]

theorem Model.refersTo {datamodel : Datamodel} {config : Config}
    (multiple : config.multipleFiles = true) {before after : List Model} {model : Model}
    (models : datamodel.models = before ++ model :: after) :
    model.RefersTo datamodel config before after (distinct model.enumerationTypes) where
  occurrences := firstOccurrences_distinct model.enumerationTypes
  file := by
    rw [plan, if_pos multiple, Plan.separate_files_getElem? models, Declaration.file,
      Declaration.fileText_eq, Declaration.importText, Declaration.block, references_declaration]
    simp only [String.append_assoc]
    rfl
  events := by rw [planEvents_append multiple models, fileEvents_eq]
  lines := by
    have opening : ("WARN " : String) = "WARN" ++ " " := by decide
    simp only [List.map_map, Function.comp_def, Event.line, Event.level, Level.name,
      Event.message, opening, String.append_assoc]

/-- In a plan of one file nothing is told of enumerations that are not declared. -/
theorem eq_inputTypesIgnored_of_warn {datamodel : Datamodel} {config : Config}
    (single : config.multipleFiles = false) {event : Event}
    (told : event ∈ planEvents datamodel config) (warns : event.level = .warn) :
    event = .inputTypesIgnored := by
  rw [planEvents, List.mem_append] at told
  rcases told with ofInputs | ofModels
  · split at ofInputs
    · exact List.mem_singleton.mp ofInputs
    · contradiction
  · obtain ⟨model, -, ofModel⟩ := List.mem_flatMap.mp ofModels
    rw [if_neg (by simp [single])] at ofModel
    obtain ⟨diagnostic, -, rfl⟩ := List.mem_map.mp ofModel
    cases warns

/-- Writing reports what it wrote and nothing else. -/
theorem log_writeFiles (files : List PlannedFile) (world : World) :
    ∃ written : List Path, ((writeFiles files : StateM World _).run world).2.log =
      world.log ++ written.map .wrote := by
  induction files generalizing world with
  | nil => exact ⟨[], by rw [List.map_nil, List.append_nil]; rfl⟩
  | cons file files ih =>
      cases written : world.disk.writeFile file.path file.contents.toUTF8 with
      | error fault =>
          rw [run_writeFiles_of_error written]
          exact ⟨[], (List.append_nil _).symm⟩
      | ok disk =>
          rw [run_writeFiles_of_ok written]
          obtain ⟨others, log⟩ := ih ⟨disk, world.log ++ [.wrote file.path]⟩
          exact ⟨file.path :: others, by rw [log, List.append_assoc]; rfl⟩

/-- A run warns only while it plans. -/
theorem log_generate (datamodel : Datamodel) (config : Config) (world : World) :
    ∃ rest, ((generate datamodel config : StateM World _).run world).2.log =
        world.log ++ planEvents datamodel config ++ rest ∧
      ∀ event ∈ rest, event.level ≠ .warn := by
  rw [generate, run_bind, run_reportAll, run_bind, Plan.write, run_bind, run_createDirectories]
  cases directories : world.disk.createDirectories (plan datamodel config).root with
  | mk outcome made =>
      cases outcome with
      | error fault => exact ⟨[], (List.append_nil _).symm, by simp⟩
      | ok _ =>
          obtain ⟨paths, log⟩ := log_writeFiles (plan datamodel config).files
            ⟨made, world.log ++ planEvents datamodel config⟩
          dsimp only
          cases written : (writeFiles (plan datamodel config).files : StateM World _).run
              ⟨made, world.log ++ planEvents datamodel config⟩ with
          | mk result finish =>
              rw [written] at log
              have quiet : ∀ event ∈ paths.map Event.wrote, event.level ≠ .warn := by
                simp [Event.level]
              cases result with
              | error failure => exact ⟨_, log, quiet⟩
              | ok _ =>
                  refine ⟨paths.map .wrote ++ endingEvents (.ok (plan datamodel config)), ?_, ?_⟩
                  · rw [← List.append_assoc, ← log]
                    rfl
                  · rw [List.forall_mem_append]
                    exact ⟨quiet, by simp [endingEvents, Event.level]⟩

/-- The file of a model imports what the model refers to, and a run in several
files warns of what of it is not declared; other runs do not, and no run warns after
it has planned. -/
theorem imports_and_warnings (datamodel : Datamodel) (config : Config) (start : World) :
    (config.multipleFiles = true → ∀ before model after,
      datamodel.models = before ++ model :: after →
        ∃ names, model.RefersTo datamodel config before after names) ∧
    (config.multipleFiles = false →
      ∀ event ∈ planEvents datamodel config, event.level = .warn → event = .inputTypesIgnored) ∧
    ∃ rest, ((generate datamodel config : StateM World _).run start).2.log =
        start.log ++ planEvents datamodel config ++ rest ∧
      ∀ event ∈ rest, event.level ≠ .warn :=
  ⟨fun multiple _ model _ models => ⟨distinct model.enumerationTypes, model.refersTo multiple models⟩,
    fun single _ told warns => eq_inputTypesIgnored_of_warn single told warns,
    log_generate datamodel config start⟩

/-- A model that names two enumerations, the first twice and wrapped, the other
undeclared, and in a field of a relation a third one. -/
theorem imports_and_warnings_account :
    let fields := [Field.enumeration "status" "Status",
      (Field.enumeration "roles" "Role").list.optional.withDefault (.string "ADMIN"),
      (Field.enumeration "previous" "Status").optional,
      (Field.enumeration "owner" "Owner").withRelation "AccountToOwner"]
    let account : Model := ⟨"Account", none, fields, none⟩
    let datamodel : Datamodel := ⟨[account], [Enumeration.ofNames "Role" ["ADMIN"]]⟩
    let several : Config := ⟨⟨"out"⟩, true, true, false⟩
    let one : Config := ⟨⟨"out"⟩, false, true, true⟩
    (several.multipleFiles = true ∧ datamodel.models = [] ++ account :: [] ∧
      account.enumerationTypes = ["Status", "Role", "Status"] ∧
      datamodel.undeclared (distinct account.enumerationTypes) = ["Status"]) ∧
    (plan datamodel several).files[1]?.map (importLines ·.contents) =
      some ["import \x7b z \x7d from 'zod';", "import \x7b StatusSchema \x7d from './Status';",
        "import \x7b RoleSchema \x7d from './Role';"] ∧
    (∃ names, account.RefersTo datamodel several [] [] names) ∧
    one.multipleFiles = false ∧
    ∀ event ∈ planEvents datamodel one, event.level = .warn → event = .inputTypesIgnored := by
  intro fields account datamodel several one
  have first := (imports_and_warnings datamodel several ⟨.fresh, []⟩).1
  have second := (imports_and_warnings datamodel one ⟨.fresh, []⟩).2.1
  have words : ∀ name ∈ (account.declaration true).references, IsWord name := by decide
  have imports := importLines_fileText words
  exact ⟨⟨rfl, rfl, rfl, rfl⟩, congrArg some (imports.trans (by decide)),
    first rfl [] account [] rfl, rfl, second rfl⟩

end PrismaZod
