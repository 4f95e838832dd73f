import PrismaZod.Proofs.Run.Writing

/-!
# Runs

Files are generated for a caller that has a datamodel and a configuration, for
the command line, or for a request to the service.  The last two first read what
they are to generate, and may fail by that.  From there on all runs carry out a
plan, and differ in how they tell what came of it.
-/

namespace PrismaZod

open CommandLine

/-- A run that generates files. -/
inductive Run
  | library (datamodel : Datamodel) (config : Config)
  | command (arguments : GenerateArguments) (input : List UInt8)
  | request (id parameters : Json)

/-- What a run answers to its caller. -/
inductive Answer
  | library (result : Except Failure Plan)
  | command (ending : Ending)
  | request (outcome : Outcome)

/-- What the command line asks to generate on a disk, or the report of what
cannot be read. -/
def Disk.askedFor (disk : Disk) (arguments : GenerateArguments) (input : List UInt8) :
    Except Report (Datamodel × Config) :=
  match disk.result (readDocument arguments.schema input) with
  | .error report => .error report
  | .ok text =>
      match Datamodel.ofText text with
      | .error fault =>
          .error ⟨"failed to parse " ++ arguments.schema, Report.documentCauses fault⟩
      | .ok datamodel =>
          match disk.result (readOptions arguments) with
          | .error report => .error report
          | .ok raw => .ok (datamodel, .ofRaw raw arguments.output)

namespace Run

/-- What a run is to generate, or its answer if this cannot be read. -/
def asked (disk : Disk) : Run → Except Answer (Datamodel × Config)
  | library datamodel config => .ok (datamodel, config)
  | command arguments input =>
      match disk.askedFor arguments input with
      | .error report => .error (.command (.failure report))
      | .ok both => .ok both
  | request _ parameters =>
      match GeneratorOptions.ofParameters parameters with
      | .error fault => .error (.request (.error .generation fault.message))
      | .ok options => .ok (options.dmmf.datamodel, .ofGenerator options.generator)

/-- How a run tells what came of its plan. -/
def tell (result : Except Failure Plan) : Run → Answer
  | library _ _ => .library result
  | command _ _ =>
      match result with
      | .error failure => .command (.failure (.ofFailure failure))
      | .ok _ => .command (.success "")
  | request _ _ =>
      match result with
      | .error failure => .request (.error .generation failure.message)
      | .ok _ => .request (.result .null)

/-- Perform a run. -/
def perform : Run → StateM World Answer
  | library datamodel config => do
      let result ← generate datamodel config
      pure (.library result)
  | command arguments input => do
      let ending ← (Command.generate arguments).run input
      pure (.command ending)
  | request id parameters => do
      let outcome ← Request.perform ⟨"generate", parameters, id⟩
      pure (.request outcome)

/-- What a run comes to on a disk: its answer, its root, the files that it
writes, and the disk that is left. -/
inductive Effect (run : Run) (before : Disk) :
    Answer → List Path → List PlannedFile → Disk → Prop
  /-- What to generate cannot be read, and nothing changes. -/
  | rejected {answer : Answer} :
      run.asked before = .error answer → Effect run before answer [] [] before
  /-- The plan is carried out. -/
  | planned {datamodel : Datamodel} {config : Config} {result : Except Failure Plan}
      {written : List PlannedFile} {after : Disk} :
      run.asked before = .ok (datamodel, config) →
      (plan datamodel config).Effect before result written after →
        Effect run before (run.tell result) [(plan datamodel config).root] written after

/-- A run changes its root and the files that it writes. -/
theorem Effect.changes {run : Run} {before after : Disk} {answer : Answer} {roots : List Path}
    {written : List PlannedFile} (tree : before.IsTree)
    (effect : run.Effect before answer roots written after) :
    before.Changes roots written after := by
  cases effect with
  | rejected _ => exact .refl tree
  | planned _ effect => exact effect.changes tree

end Run

theorem run_runGenerate (arguments : GenerateArguments) (input : List UInt8) (world : World) :
    (runGenerate arguments input : StateM World _).run world =
      match world.disk.askedFor arguments input with
      | .error report => (.error report, world)
      | .ok (datamodel, config) =>
          let outcome := (generate datamodel config : StateM World _).run world
          (match outcome.1 with
            | .error failure => .error (.ofFailure failure)
            | .ok _ => .ok (),
          outcome.2) := by
  rw [runGenerate, run_bind, onlyReads_readDocument, Disk.askedFor]
  cases world.disk.result (readDocument arguments.schema input) with
  | error report => rfl
  | ok text =>
      dsimp only
      cases Datamodel.ofText text with
      | error fault => rfl
      | ok datamodel =>
          dsimp only
          rw [run_bind, onlyReads_readOptions]
          cases world.disk.result (readOptions arguments) with
          | error report => rfl
          | ok raw =>
              dsimp only
              rw [run_bind]
              cases (generate datamodel (Config.ofRaw raw arguments.output) : StateM World _).run
                  world with
              | mk result finish => cases result <;> rfl

theorem run_command (arguments : GenerateArguments) (input : List UInt8) (world : World) :
    ((Command.generate arguments).run input : StateM World _).run world =
      match world.disk.askedFor arguments input with
      | .error report => (.failure report, world)
      | .ok (datamodel, config) =>
          let outcome := (generate datamodel config : StateM World _).run world
          (match outcome.1 with
            | .error failure => .failure (.ofFailure failure)
            | .ok _ => .success "",
          outcome.2) := by
  rw [Command.run, run_bind, run_runGenerate]
  cases world.disk.askedFor arguments input with
  | error report => rfl
  | ok both =>
      obtain ⟨datamodel, config⟩ := both
      dsimp only
      cases (generate datamodel config : StateM World _).run world with
      | mk result finish => cases result <;> rfl

theorem run_generateFor (parameters : Json) (world : World) :
    (generateFor parameters : StateM World _).run world =
      match GeneratorOptions.ofParameters parameters with
      | .error fault => (.error fault.message, world)
      | .ok options =>
          let outcome := (generate options.dmmf.datamodel (.ofGenerator options.generator) :
            StateM World _).run world
          (match outcome.1 with
            | .error failure => .error failure.message
            | .ok _ => .ok (),
          outcome.2) := by
  rw [generateFor]
  cases GeneratorOptions.ofParameters parameters with
  | error fault => rfl
  | ok options =>
      dsimp only
      rw [run_bind]
      cases (generate options.dmmf.datamodel (.ofGenerator options.generator) :
          StateM World _).run world with
      | mk result finish => cases result <;> rfl

/-- A request to generate answers what came of it; events before it do not
matter. -/
theorem run_request (id parameters : Json) (world : World) :
    ((Request.perform ⟨"generate", parameters, id⟩ : StateM World _).run world).1 =
        (match ((generateFor parameters : StateM World _).run world).1 with
          | .error message => .error .generation message
          | .ok _ => .result .null) ∧
      ((Request.perform ⟨"generate", parameters, id⟩ : StateM World _).run world).2.disk =
        ((generateFor parameters : StateM World _).run world).2.disk := by
  have reported : (Host.report (.request "generate") : StateM World Unit).run world =
      ((), ⟨world.disk, world.log ++ [.request "generate"]⟩) := rfl
  have notManifest : "generate" ≠ "getManifest" := by decide
  obtain ⟨sameResult, sameDisk⟩ := (ignoresLog_generateFor parameters).congr
    (show (World.mk world.disk (world.log ++ [.request "generate"])).disk = world.disk from rfl)
  rw [← sameResult, ← sameDisk, Request.perform, run_bind, reported, if_neg notManifest,
    if_pos rfl, run_bind]
  cases (generateFor parameters : StateM World _).run
      ⟨world.disk, world.log ++ [.request "generate"]⟩ with
  | mk result finish => cases result <;> exact ⟨rfl, rfl⟩

namespace Run

/-- A run that cannot read what to generate answers so and changes nothing. -/
theorem perform_of_rejected {run : Run} {world : World} {answer : Answer}
    (rejected : run.asked world.disk = .error answer) :
    (run.perform.run world).1 = answer ∧ (run.perform.run world).2.disk = world.disk := by
  cases run with
  | library datamodel config => cases rejected
  | command arguments input =>
      rw [asked] at rejected
      rw [perform, run_bind, run_pure, run_command]
      cases unread : world.disk.askedFor arguments input with
      | error report =>
          rw [unread] at rejected
          cases rejected
          exact ⟨rfl, rfl⟩
      | ok both =>
          rw [unread] at rejected
          cases rejected
  | request id parameters =>
      obtain ⟨sameAnswer, sameDisk⟩ := run_request id parameters world
      rw [asked] at rejected
      rw [perform, run_bind, run_pure, sameAnswer, sameDisk, run_generateFor]
      cases unread : GeneratorOptions.ofParameters parameters with
      | error fault =>
          rw [unread] at rejected
          cases rejected
          exact ⟨rfl, rfl⟩
      | ok options =>
          rw [unread] at rejected
          cases rejected

/-- A run that can read what to generate does what generating it does, and tells
the result. -/
theorem perform_of_asked {run : Run} {world : World} {datamodel : Datamodel} {config : Config}
    (asked : run.asked world.disk = .ok (datamodel, config)) :
    (run.perform.run world).1 =
        run.tell ((generate datamodel config : StateM World _).run world).1 ∧
      (run.perform.run world).2.disk =
        ((generate datamodel config : StateM World _).run world).2.disk := by
  cases run with
  | library datamodel config =>
      cases asked
      rw [perform, run_bind, run_pure]
      exact ⟨rfl, rfl⟩
  | command arguments input =>
      rw [Run.asked] at asked
      rw [perform, run_bind, run_pure, run_command]
      cases read : world.disk.askedFor arguments input with
      | error report =>
          rw [read] at asked
          cases asked
      | ok both =>
          rw [read] at asked
          cases asked
          dsimp only
          cases (generate datamodel config : StateM World _).run world with
          | mk result finish => cases result <;> exact ⟨rfl, rfl⟩
  | request id parameters =>
      obtain ⟨sameAnswer, sameDisk⟩ := run_request id parameters world
      rw [Run.asked] at asked
      rw [perform, run_bind, run_pure, sameAnswer, sameDisk, run_generateFor]
      cases read : GeneratorOptions.ofParameters parameters with
      | error fault =>
          rw [read] at asked
          cases asked
      | ok options =>
          rw [read] at asked
          cases asked
          dsimp only
          cases (generate options.dmmf.datamodel (.ofGenerator options.generator) :
              StateM World _).run world with
          | mk result finish => cases result <;> exact ⟨rfl, rfl⟩

/-- Every run fails to read what it is to generate, or carries out its plan. -/
theorem perform_effect (run : Run) {world : World} (tree : world.disk.IsTree) :
    ∃ roots written, run.Effect world.disk (run.perform.run world).1 roots written
      (run.perform.run world).2.disk := by
  cases read : run.asked world.disk with
  | error answer =>
      obtain ⟨answers, unchanged⟩ := perform_of_rejected read
      rw [answers, unchanged]
      exact ⟨[], [], .rejected read⟩
  | ok both =>
      obtain ⟨datamodel, config⟩ := both
      obtain ⟨written, effect⟩ := generate_effect datamodel config tree
      obtain ⟨tells, sameDisk⟩ := perform_of_asked read
      rw [tells, sameDisk]
      exact ⟨[(plan datamodel config).root], written, .planned read effect⟩

end Run

end PrismaZod
