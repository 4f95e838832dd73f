import Mathlib.Algebra.GroupWithZero.Nat
import PrismaZod.Proofs.Plan.Links
import PrismaZod.Proofs.Run.Writing
import PrismaZod.Proofs.Schema.Accounting

/-!
# Reports of runs

What a plan leaves out is what the accounts of its models leave out, whether the
models share a file or not.  A run reports just this while it plans, in the same
order, and tells at its end how much it was.
-/

namespace PrismaZod

/-- All models together have a property or a report of a drop for each field. -/
theorem Datamodel.length_properties (datamodel : Datamodel) (coerceDate : Bool) :
    (datamodel.models.map fun model => (model.declaration coerceDate).properties.length).sum +
        (datamodel.diagnostics coerceDate).countP Diagnostic.isDrop =
      (datamodel.models.map fun model => model.fields.length).sum := by
  rw [diagnostics]
  induction datamodel.models with
  | nil => rfl
  | cons model models ih =>
      have first := (model.account coerceDate).length
      simp only [List.map_cons, List.sum_cons, List.flatMap_cons, List.countP_append]
      omega

/-- Some planned file holds the declaration of a model. -/
theorem exists_file_of_model {datamodel : Datamodel} {model : Model}
    (among : model ∈ datamodel.models) (config : Config) :
    ∃ file ∈ (plan datamodel config).files, ∃ front back,
      file.contents = front ++ (model.declaration config.coerceDate).source ++ back := by
  have declared : model.declaration config.coerceDate ∈
      datamodel.declarations config.coerceDate :=
    List.mem_append_right _ (List.mem_map_of_mem among)
  cases multiple : config.multipleFiles with
  | true =>
      have files : (plan datamodel config).files = (Plan.separate datamodel config).files := by
        rw [plan, if_pos multiple]
      rw [files]
      exact ⟨(model.declaration config.coerceDate).file config.output,
        List.mem_append_left _ (List.mem_map.mpr ⟨_, declared, rfl⟩), _, "\n", rfl⟩
  | false =>
      have files : (plan datamodel config).files = (Plan.combined datamodel config).files := by
        rw [plan, if_neg (by simp [multiple])]
      obtain ⟨before, after, parts⟩ := List.append_of_mem declared
      rw [files]
      refine ⟨_, List.mem_singleton_self _,
        zodImport ++ "\n" ++ String.join (before.map Declaration.block) ++ "\n",
        "\n" ++ String.join (after.map Declaration.block), ?_⟩
      simp only [Datamodel.combinedText_eq, parts, List.map_append, List.map_cons,
        String.join_append, String.join_cons, Declaration.block, String.append_assoc]

theorem plan_diagnostics (datamodel : Datamodel) (config : Config) :
    (plan datamodel config).diagnostics = datamodel.diagnostics config.coerceDate := by
  rw [plan]
  split <;> rfl

/-- While it plans, a run reports at the lowest level what the plan leaves out and
nothing else. -/
theorem planEvents_debug (datamodel : Datamodel) (config : Config) :
    (planEvents datamodel config).filter (fun event => event.level = .debug) =
      (plan datamodel config).diagnostics.map .leftOut := by
  have leftOut (diagnostics : List Diagnostic) :
      (diagnostics.map Event.leftOut).filter (fun event => event.level = .debug) =
        diagnostics.map .leftOut := by
    simp [List.filter_map, Function.comp_def, Event.level]
  have undeclared (model : String) (names : List String) :
      (names.map (Event.undeclared model)).filter (fun event => event.level = .debug) = [] := by
    simp [List.filter_map, Function.comp_def, Event.level]
  have ignored : (if config.createInputTypes then [Event.inputTypesIgnored] else []).filter
      (fun event => event.level = .debug) = [] := by
    cases config.createInputTypes <;> rfl
  rw [plan_diagnostics, planEvents, List.filter_append, ignored, List.nil_append,
    List.filter_flatMap, Datamodel.diagnostics, List.map_flatMap]
  congr 1
  funext model
  split
  · rw [Model.fileEvents, List.filter_append, undeclared, List.append_nil,
      Model.declarationEvents, leftOut]
  · rw [Model.declarationEvents, leftOut]

/-- What a plan shows of the fields of a datamodel and what it tells of them. -/
structure Accounted (datamodel : Datamodel) (config : Config) : Prop where
  account : ∀ model ∈ datamodel.models,
    Account model.name config.coerceDate model.fields
      (model.declaration config.coerceDate).properties (model.diagnostics config.coerceDate)
  names : ∀ model ∈ datamodel.models,
    (model.declaration config.coerceDate).properties.map (·.name) =
      (model.fields.filter fun field => decide field.IsEmitted).map (·.name)
  planned : ∀ model ∈ datamodel.models, ∃ file ∈ (plan datamodel config).files,
    ∃ front back, file.contents = front ++ (model.declaration config.coerceDate).source ++ back
  diagnostics : (plan datamodel config).diagnostics =
    (datamodel.models.map (·.diagnostics config.coerceDate)).flatten
  /-- No field is lost: each has a property or a report that it was dropped. -/
  total : (datamodel.models.map fun model =>
        (model.declaration config.coerceDate).properties.length).sum +
      (plan datamodel config).diagnostics.countP Diagnostic.isDrop =
    (datamodel.models.map fun model => model.fields.length).sum

/-- What a run reports of what its plan leaves out. -/
structure Reported (datamodel : Datamodel) (config : Config) (start : World) : Prop where
  planning : ((planEvents datamodel config).filter fun event => event.level = .debug).map
      Event.line =
    (plan datamodel config).diagnostics.map fun diagnostic => "DEBUG " ++ diagnostic.message
  /-- After what is reported while planning come the files and, after success, the
  end of the run. -/
  log : ∃ written, written <+: (plan datamodel config).files ∧
    ((generate datamodel config : StateM World _).run start).2.log =
      start.log ++ planEvents datamodel config ++
        (written.map fun file => .wrote file.path) ++
        endingEvents ((generate datamodel config : StateM World _).run start).1
  ending : ∀ result, ((generate datamodel config : StateM World _).run start).1 = .ok result →
    result = plan datamodel config ∧
      (endingEvents (.ok result)).map Event.line =
        ["INFO generated " ++ result.files.length.repr ++ " file(s) in " ++ result.root.text ++
          " (" ++ (plan datamodel config).diagnostics.length.repr ++
          " field(s) or default(s) left out)"]

theorem Plan.Effect.written_prefix {plan : Plan} {before after : Disk}
    {result : Except Failure Plan} {written : List PlannedFile}
    (effect : plan.Effect before result written after) : written <+: plan.files := by
  cases effect with
  | noDirectory _ _ => exact List.nil_prefix
  | stopped _ _ parts _ _ =>
      rw [parts]
      exact List.prefix_append _ _
  | finished _ _ _ _ => exact List.prefix_refl _

theorem Plan.Effect.eq_of_ok {plan result : Plan} {before after : Disk}
    {written : List PlannedFile} (effect : plan.Effect before (.ok result) written after) :
    result = plan := by
  cases effect with
  | finished _ _ _ _ => rfl

/-- Each field is in the schema of its model or in a report, and the reports are
in the plan, in the log and in the number that the run ends with. -/
theorem fields_accounted (datamodel : Datamodel) (config : Config) (start : World)
    (tree : start.disk.IsTree) :
    Accounted datamodel config ∧ Reported datamodel config start := by
  obtain ⟨written, effect⟩ := generate_effect datamodel config tree
  have runs := effect.run_generate
  constructor
  · constructor
    case account => exact fun model _ => model.account config.coerceDate
    case names => exact fun model _ => (model.account config.coerceDate).names
    case planned => exact fun model among => exists_file_of_model among config
    case diagnostics => rw [plan_diagnostics, Datamodel.diagnostics, List.flatMap_def]
    case total => rw [plan_diagnostics, datamodel.length_properties]
  · constructor
    case planning =>
      rw [planEvents_debug, List.map_map]
      rfl
    case log => exact ⟨written, effect.written_prefix, congrArg (·.2.log) runs⟩
    case ending =>
      intro result success
      rw [success] at effect
      have same := effect.eq_of_ok
      have opening : "INFO generated " = "INFO" ++ (" " ++ "generated ") := by decide
      subst same
      refine ⟨rfl, ?_⟩
      simp only [endingEvents, List.map_cons, List.map_nil, Event.line, Event.level, Level.name,
        Event.message, opening, String.append_assoc]

/-- A field with a generated default, a relation, a type without a validator and
a field with an inlined default. -/
theorem fields_accounted_post :
    let post : Model := ⟨"Post", none, [
      (Field.scalar "id" "Int").withDefault (.object [("name", .string "autoincrement")]),
      (Field.plain "author" .object "User").withRelation "PostToUser",
      Field.plain "shape" .unsupported "Polygon",
      (Field.scalar "title" "String").withDefault (.string "Untitled")], none⟩
    let config : Config := ⟨⟨"out"⟩, true, true, false⟩
    let start : World := ⟨.fresh, []⟩
    (start.disk.IsTree ∧ (plan ⟨[post], []⟩ config).diagnostics = [
        ⟨"Post", "id", .default (.generated "autoincrement")⟩,
        ⟨"Post", "author", .field (.relation "PostToUser")⟩,
        ⟨"Post", "shape", .field (.unsupported "Polygon")⟩]) ∧
      Accounted ⟨[post], []⟩ config ∧ Reported ⟨[post], []⟩ config start := by
  intro post config start
  have tree : start.disk.IsTree := Disk.isTree_fresh
  exact ⟨⟨tree, rfl⟩, fields_accounted ⟨[post], []⟩ config start tree⟩

end PrismaZod
