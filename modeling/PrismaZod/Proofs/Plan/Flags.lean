import PrismaZod.Proofs.Plan.Links
import PrismaZod.Proofs.Schema.Coercion

/-!
# Flags of a configuration

A flag reaches what it names.  Coercion shows in the dates of models, and neither
in where files go nor in what is left out.  Asking for schemas of inputs changes
no plan.  Of raw options only the texts under the known keys count.
-/

namespace PrismaZod

/-- The keys of the options that a configuration is made from. -/
def RawConfig.knownKeys : List String :=
  ["output", "multipleFiles", "coerceDate", "createInputTypes"]

/-- The declaration of a model without coercion is the one with it, except for the
dates that are coerced. -/
structure Model.DatesApart (model : Model) : Prop where
  strict : model.declaration false = (model.declaration true).strict
  references : (model.declaration false).references = (model.declaration true).references
  none_coerced : ∀ property ∈ (model.declaration false).properties,
    ¬property.validator.Coerces

/-- Plans for a datamodel, one with coercion and one without, differ only in the
dates of models. -/
structure Plan.DatesApart (datamodel : Datamodel) (multipleFiles : Bool)
    (coerced strict : Plan) : Prop where
  root : coerced.root = strict.root
  paths : coerced.files.map (·.path) = strict.files.map (·.path)
  diagnostics : coerced.diagnostics = strict.diagnostics
  models : ∀ model ∈ datamodel.models, model.DatesApart
  /-- The files of enumerations and the index are the same. -/
  separate : multipleFiles = true → ∃ enumerations index,
    enumerations.length = datamodel.enumerations.length ∧
    coerced.files = enumerations ++
      datamodel.models.map (fun model => (model.declaration true).file coerced.root) ++
        [index] ∧
    strict.files = enumerations ++
      datamodel.models.map (fun model => (model.declaration true).strict.file coerced.root) ++
        [index]
  /-- The blocks of enumerations are the same. -/
  combined : multipleFiles = false → ∃ enumerations,
    coerced.files.map (·.contents) = [enumerations ++
      String.join (datamodel.models.map fun model => (model.declaration true).block)] ∧
    strict.files.map (·.contents) = [enumerations ++
      String.join (datamodel.models.map fun model => (model.declaration true).strict.block)]

theorem Model.datesApart (model : Model) : model.DatesApart where
  strict := model.declaration_strict
  references := by rw [declaration_strict, Declaration.references_strict]
  none_coerced := fun _ => model.not_coerces_of_mem_properties

theorem Datamodel.diagnostics_congr (datamodel : Datamodel) (first second : Bool) :
    datamodel.diagnostics first = datamodel.diagnostics second := by
  rw [diagnostics, diagnostics]
  congr 1
  funext model
  exact model.diagnostics_congr first second

theorem Plan.separate_datesApart (datamodel : Datamodel) (config : Config) :
    DatesApart datamodel true (separate datamodel { config with coerceDate := true })
      (separate datamodel { config with coerceDate := false }) where
  root := rfl
  paths := by rw [separate_paths, separate_paths]
  diagnostics := datamodel.diagnostics_congr true false
  models := fun model _ => model.datesApart
  separate := by
    intro _
    refine ⟨datamodel.enumerations.map (·.declaration.file config.output), _,
      List.length_map _, separate_files_eq_append datamodel _, ?_⟩
    rw [separate_files_eq_append]
    simp only [Model.declaration_strict]
    rfl
  combined := fun single => by contradiction

theorem Plan.combined_datesApart (datamodel : Datamodel) (config : Config) :
    DatesApart datamodel false (combined datamodel { config with coerceDate := true })
      (combined datamodel { config with coerceDate := false }) where
  root := rfl
  paths := rfl
  diagnostics := datamodel.diagnostics_congr true false
  models := fun model _ => model.datesApart
  separate := fun multiple => by contradiction
  combined := by
    intro _
    refine ⟨zodImport ++ "\n" ++
      String.join (datamodel.enumerations.map fun enumeration => enumeration.declaration.block),
      ?_, ?_⟩ <;>
    simp [combined, Datamodel.combinedText_eq, Datamodel.declarations, String.append_assoc,
      Function.comp_def, Model.declaration_strict]

theorem Config.ofRaw_congr {first second : RawConfig}
    (agree : ∀ key ∈ RawConfig.knownKeys, first.text? key = second.text? key)
    (output : Option String) : ofRaw first output = ofRaw second output := by
  simp only [RawConfig.knownKeys, List.forall_mem_cons] at agree
  obtain ⟨outputs, files, dates, inputs, -⟩ := agree
  rw [ofRaw, ofRaw, outputs, files, dates, inputs]

/-- Coercion changes the dates in the declarations of models and nothing else, and
whether schemas of inputs are asked for changes nothing, in whatever configuration;
raw options with the same texts under the known keys make the same one. -/
theorem flags_reach (datamodel : Datamodel) (config : Config) (first second : RawConfig)
    (output : Option String)
    (agree : ∀ key ∈ RawConfig.knownKeys, first.text? key = second.text? key) :
    Plan.DatesApart datamodel config.multipleFiles
      (plan datamodel { config with coerceDate := true })
      (plan datamodel { config with coerceDate := false }) ∧
    (∀ asked : Bool,
      plan datamodel { config with createInputTypes := asked } = plan datamodel config) ∧
    Config.ofRaw first output = Config.ofRaw second output := by
  refine ⟨?_, fun asked => rfl, Config.ofRaw_congr agree output⟩
  obtain ⟨root, multipleFiles, coerceDate, createInputTypes⟩ := config
  cases multipleFiles with
  | true => exact Plan.separate_datesApart datamodel ⟨root, true, coerceDate, createInputTypes⟩
  | false => exact Plan.combined_datesApart datamodel ⟨root, false, coerceDate, createInputTypes⟩

/-- A list of dates with a default, and options that differ in a key that is not
known and in a list where the others have nothing. -/
theorem flags_reach_dates :
    let created := (Field.scalar "created" "DateTime").list.withDefault (.string "now")
    let datamodel : Datamodel :=
      ⟨[⟨"Post", none, [created, Field.enumeration "role" "Role"], none⟩],
        [Enumeration.ofNames "Role" ["ADMIN"]]⟩
    let config : Config := ⟨⟨"out"⟩, true, true, false⟩
    let first : RawConfig := [("multipleFiles", .single "true"), ("prettier", .single "true")]
    let second : RawConfig := [("coerceDate", .list ["false"]), ("multipleFiles", .single "true")]
    (∀ key ∈ RawConfig.knownKeys, first.text? key = second.text? key) ∧
      Plan.DatesApart datamodel true (plan datamodel config)
        (plan datamodel { config with coerceDate := false }) ∧
      plan datamodel { config with createInputTypes := true } = plan datamodel config ∧
      Config.ofRaw first none = Config.ofRaw second none := by
  intro created datamodel config first second
  have agree : ∀ key ∈ RawConfig.knownKeys, first.text? key = second.text? key := by decide
  obtain ⟨dates, inputs, options⟩ := flags_reach datamodel config first second none agree
  exact ⟨agree, dates, inputs true, options⟩

end PrismaZod
