import PrismaZod.Proofs.Disk.Changes
import PrismaZod.Proofs.Host.Log

/-!
# Writing a plan

A plan makes its root and then writes its files in order.  It stops where
making the root or a write fails, and the failure tells where that was.
-/

namespace PrismaZod

open Disk

/-- What carrying out a plan comes to on a disk: the result, the files that are
written, and the disk that is left. -/
inductive Plan.Effect (plan : Plan) (before : Disk) :
    Except Failure Plan → List PlannedFile → Disk → Prop
  /-- The root cannot be made: there are new directories at most. -/
  | noDirectory {fault : FileFault} {after : Disk} :
      before.createDirectories plan.root = (.error fault, after) →
      AddsDirectories (before.NamesByPrefix plan.root) before after →
        Effect plan before (.error (.createDirectory plan.root fault)) [] after
  /-- A write fails: the files before it are written, and no other. -/
  | stopped {made after : Disk} {written rest : List PlannedFile} {failed : PlannedFile}
      {fault : FileFault} :
      before.createDirectories plan.root = (.ok (), made) →
      AddsDirectories (before.NamesByPrefix plan.root) before made →
      plan.files = written ++ failed :: rest → made.Wrote written after →
      after.writeFile failed.path failed.contents.toUTF8 = .error fault →
        Effect plan before (.error (.write failed.path fault)) written after
  /-- The root is a directory and all files are written. -/
  | finished {made after : Disk} :
      before.createDirectories plan.root = (.ok (), made) →
      AddsDirectories (before.NamesByPrefix plan.root) before made →
      made.Wrote plan.files after →
      after.get? (after.placeOf plan.root) = some .directory →
        Effect plan before (.ok plan) plan.files after

/-- A plan changes its root and the files that it writes. -/
theorem Plan.Effect.changes {plan : Plan} {before after : Disk} {result : Except Failure Plan}
    {written : List PlannedFile} (tree : before.IsTree)
    (effect : plan.Effect before result written after) :
    Changes [plan.root] written before after := by
  have created := creates_createDirectories tree plan.root
  cases effect with
  | noDirectory failed adds =>
      rw [failed] at created
      exact adds.changes created.tree
  | stopped success adds _ wrote _ =>
      rw [success] at created
      exact (adds.changes created.tree).trans (wrote.changes created.tree)
  | finished success adds wrote _ =>
      rw [success] at created
      exact (adds.changes created.tree).trans (wrote.changes created.tree)

theorem run_reportAll (events : List Event) (world : World) :
    (reportAll events : StateM World Unit).run world =
      ((), ⟨world.disk, world.log ++ events⟩) := by
  induction events generalizing world with
  | nil => rw [reportAll, run_pure, List.append_nil]
  | cons event events ih =>
      have reported : (Host.report event : StateM World Unit).run world =
          ((), ⟨world.disk, world.log ++ [event]⟩) := rfl
      rw [reportAll, run_bind, reported, ih, List.append_assoc, List.singleton_append]

theorem run_createDirectories (path : Path) (world : World) :
    (Host.createDirectories path : StateM World _).run world =
      ((world.disk.createDirectories path).1,
        ⟨(world.disk.createDirectories path).2, world.log⟩) :=
  rfl

theorem run_writeFiles_of_error {world : World} {file : PlannedFile} {fault : FileFault}
    (failed : world.disk.writeFile file.path file.contents.toUTF8 = .error fault)
    (files : List PlannedFile) :
    (writeFiles (file :: files) : StateM World _).run world =
      (.error (.write file.path fault), world) := by
  have stays : (Host.writeFile file.path file.contents.toUTF8 : StateM World _).run world =
      (.error fault, world) := by
    simp only [Host.writeFile, World.writeFile, StateT.run, failed]
  rw [writeFiles, run_bind, stays]
  rfl

theorem run_writeFiles_of_ok {world : World} {file : PlannedFile} {disk : Disk}
    (written : world.disk.writeFile file.path file.contents.toUTF8 = .ok disk)
    (files : List PlannedFile) :
    (writeFiles (file :: files) : StateM World _).run world =
      (writeFiles files : StateM World _).run ⟨disk, world.log ++ [.wrote file.path]⟩ := by
  have success : (Host.writeFile file.path file.contents.toUTF8 : StateM World _).run world =
      (.ok (), ⟨disk, world.log⟩) := by
    simp only [Host.writeFile, World.writeFile, StateT.run, written]
  rw [writeFiles, run_bind, success]
  rfl

/-- Files are written up to the first one whose write fails. -/
theorem writeFiles_effect (files : List PlannedFile) (world : World) :
    (((writeFiles files : StateM World _).run world).1 = .ok () ∧
      world.disk.Wrote files ((writeFiles files : StateM World _).run world).2.disk) ∨
    ∃ written failed rest fault, files = written ++ failed :: rest ∧
      world.disk.Wrote written ((writeFiles files : StateM World _).run world).2.disk ∧
      ((writeFiles files : StateM World _).run world).2.disk.writeFile failed.path
        failed.contents.toUTF8 = .error fault ∧
      ((writeFiles files : StateM World _).run world).1 = .error (.write failed.path fault) := by
  induction files generalizing world with
  | nil => exact .inl ⟨rfl, .none world.disk⟩
  | cons file files ih =>
      cases written : world.disk.writeFile file.path file.contents.toUTF8 with
      | error fault =>
          rw [run_writeFiles_of_error written]
          exact .inr ⟨[], file, files, fault, rfl, .none world.disk, written, rfl⟩
      | ok disk =>
          rw [run_writeFiles_of_ok written]
          rcases ih ⟨disk, world.log ++ [.wrote file.path]⟩ with ⟨result, wrote⟩ |
            ⟨before, failed, rest, fault, parts, wrote, fails, result⟩
          · exact .inl ⟨result, .next written wrote⟩
          · exact .inr ⟨file :: before, failed, rest, fault, by rw [parts, List.cons_append],
              .next written wrote, fails, result⟩

/-- Each file that is written is reported, and then the rest is written. -/
theorem run_writeFiles_of_wrote {before after : Disk} {written : List PlannedFile}
    (wrote : before.Wrote written after) (rest : List PlannedFile) (log : List Event) :
    (writeFiles (written ++ rest) : StateM World _).run ⟨before, log⟩ =
      (writeFiles rest : StateM World _).run
        ⟨after, log ++ written.map fun file => .wrote file.path⟩ := by
  induction wrote generalizing log with
  | none disk => rw [List.nil_append, List.map_nil, List.append_nil]
  | @next before middle after file others success wrote ih =>
      have first : (World.mk before log).disk.writeFile file.path file.contents.toUTF8 =
          .ok middle := success
      rw [List.cons_append, run_writeFiles_of_ok first, ih, List.map_cons, List.append_assoc,
        List.singleton_append]

/-- Generating carries out the plan. -/
theorem generate_effect (datamodel : Datamodel) (config : Config) {world : World}
    (tree : world.disk.IsTree) :
    ∃ written, (plan datamodel config).Effect world.disk
      ((generate datamodel config : StateM World _).run world).1 written
      ((generate datamodel config : StateM World _).run world).2.disk := by
  have created := creates_createDirectories tree (plan datamodel config).root
  rw [generate, run_bind, run_reportAll, run_bind, Plan.write, run_bind, run_createDirectories]
  cases directories : world.disk.createDirectories (plan datamodel config).root with
  | mk outcome made =>
      rw [directories] at created
      cases outcome with
      | error fault => exact ⟨[], .noDirectory directories created.adds⟩
      | ok _ =>
          -- The root was made before the files, and writing them keeps it.
          have effect := writeFiles_effect (plan datamodel config).files
            ⟨made, world.log ++ planEvents datamodel config⟩
          dsimp only
          cases written : (writeFiles (plan datamodel config).files : StateM World _).run
              ⟨made, world.log ++ planEvents datamodel config⟩ with
          | mk result finish =>
              simp only [written] at effect
              rcases effect with ⟨rfl, wrote⟩ |
                ⟨front, failed, rest, fault, parts, wrote, fails, rfl⟩
              · have changes := wrote.changes created.tree
                have sameDirectory := created.adds.working.symm.trans changes.keeps.working.symm
                refine ⟨(plan datamodel config).files, .finished directories created.adds wrote ?_⟩
                have held := changes.keeps.directory _ (created.held rfl)
                rw [placeOf_congr sameDirectory] at held
                exact held
              · exact ⟨front, .stopped directories created.adds parts wrote fails⟩

/-- What is reported of a plan that was carried out. -/
def endingEvents : Except Failure Plan → List Event
  | .ok plan => [.generated plan.files.length plan.root plan.diagnostics.length]
  | .error _ => []

/-- What a plan comes to on a disk is what generating it does there; the planning
is reported first, then each file, then the end. -/
theorem Plan.Effect.run_generate {datamodel : Datamodel} {config : Config} {world : World}
    {result : Except Failure Plan} {written : List PlannedFile} {after : Disk}
    (effect : (plan datamodel config).Effect world.disk result written after) :
    (generate datamodel config : StateM World _).run world =
      (result, ⟨after, world.log ++ planEvents datamodel config ++
        (written.map fun file => .wrote file.path) ++ endingEvents result⟩) := by
  rw [generate, run_bind, run_reportAll, run_bind, Plan.write, run_bind, run_createDirectories]
  cases effect with
  | noDirectory failed _ =>
      dsimp only
      rw [failed, List.map_nil, endingEvents, List.append_nil, List.append_nil]
      rfl
  | @stopped made _ _ rest failed fault success _ parts wrote fails =>
      have ends : (World.mk after (world.log ++ planEvents datamodel config ++
          written.map fun file => .wrote file.path)).disk.writeFile failed.path
            failed.contents.toUTF8 = .error fault := fails
      dsimp only
      rw [success]
      dsimp only
      rw [parts, run_writeFiles_of_wrote wrote, run_writeFiles_of_error ends, endingEvents,
        List.append_nil]
      rfl
  | finished success _ wrote _ =>
      have all := run_writeFiles_of_wrote wrote [] (world.log ++ planEvents datamodel config)
      rw [List.append_nil] at all
      dsimp only
      rw [success]
      dsimp only
      rw [all, writeFiles, run_pure]
      rfl

end PrismaZod
