import PrismaZod.CommandLine.Run
import PrismaZod.Protocol.Serve

/-!
# Disks and logs

Nothing that a run does depends on the events reported before, and reading files
changes neither the disk nor the log.  Both hold of the host, of values, and of
what is composed of actions for which they hold.
-/

namespace PrismaZod

variable {α β : Type}

/-- The action does what it does on the disk alone, and reports its events after
those before. -/
def IgnoresLog (action : StateM World α) : Prop :=
  ∀ world : World, action.run world =
    ((action.run ⟨world.disk, []⟩).1,
      ⟨(action.run ⟨world.disk, []⟩).2.disk,
        world.log ++ (action.run ⟨world.disk, []⟩).2.log⟩)

/-- What an action comes to on a disk. -/
def Disk.result (disk : Disk) (action : StateM World α) : α :=
  (action.run ⟨disk, []⟩).1

/-- The disk that an action leaves. -/
def Disk.left (disk : Disk) (action : StateM World α) : Disk :=
  (action.run ⟨disk, []⟩).2.disk

/-- The action changes nothing, and comes to what it would come to before any
event. -/
def OnlyReads (action : StateM World α) : Prop :=
  ∀ world : World, action.run world = (world.disk.result action, world)

theorem run_bind (action : StateM World α) (next : α → StateM World β) (world : World) :
    (action >>= next).run world = (next (action.run world).1).run (action.run world).2 :=
  rfl

theorem run_pure (value : α) (world : World) :
    (pure value : StateM World α).run world = (value, world) :=
  rfl

namespace IgnoresLog

theorem pure (value : α) : IgnoresLog (pure value : StateM World α) := by
  intro world
  rw [run_pure, run_pure, List.append_nil]

theorem bind {action : StateM World α} {next : α → StateM World β} (first : IgnoresLog action)
    (second : ∀ value, IgnoresLog (next value)) : IgnoresLog (action >>= next) := by
  intro world
  rw [run_bind, run_bind, first world, second _ ⟨_, _ ++ _⟩]
  have inner := second (action.run ⟨world.disk, []⟩).1 (action.run ⟨world.disk, []⟩).2
  rw [inner]
  simp [List.append_assoc]

theorem createDirectories (path : Path) :
    IgnoresLog (Host.createDirectories path : StateM World _) := by
  intro world
  simp [Host.createDirectories, World.createDirectories, StateT.run]

theorem writeFile (path : Path) (contents : ByteArray) :
    IgnoresLog (Host.writeFile path contents : StateM World _) := by
  intro world
  cases written : world.disk.writeFile path contents <;>
    simp [Host.writeFile, World.writeFile, StateT.run, written]

theorem report (event : Event) : IgnoresLog (Host.report event : StateM World _) := by
  intro world
  simp [Host.report, StateT.run]

/-- What an action answers and leaves on the disk depends on the disk only. -/
theorem congr {action : StateM World α} (ignores : IgnoresLog action) {first second : World}
    (same : first.disk = second.disk) :
    (action.run first).1 = (action.run second).1 ∧
      (action.run first).2.disk = (action.run second).2.disk := by
  rw [ignores first, ignores second, same]
  exact ⟨rfl, rfl⟩

theorem result_left {action : StateM World α} (ignores : IgnoresLog action) (world : World) :
    (action.run world).1 = world.disk.result action ∧
      (action.run world).2.disk = world.disk.left action :=
  ignores.congr rfl

/-- An action that comes after another starts on the disk that this one leaves. -/
theorem result_bind (action : StateM World α) {next : α → StateM World β}
    (second : ∀ value, IgnoresLog (next value)) (disk : Disk) :
    disk.result (action >>= next) = (disk.left action).result (next (disk.result action)) ∧
      disk.left (action >>= next) = (disk.left action).left (next (disk.result action)) :=
  (second _).result_left (action.run ⟨disk, []⟩).2

end IgnoresLog

namespace OnlyReads

theorem pure (value : α) : OnlyReads (pure value : StateM World α) := by
  intro world
  rfl

theorem bind {action : StateM World α} {next : α → StateM World β} (first : OnlyReads action)
    (second : ∀ value, OnlyReads (next value)) : OnlyReads (action >>= next) := by
  intro world
  have inner : world.disk.result (action >>= next) =
      world.disk.result (next (world.disk.result action)) := by
    rw [Disk.result, run_bind, first ⟨world.disk, []⟩]
    rfl
  rw [run_bind, first world, second _ world, inner]

theorem readFile (path : Path) : OnlyReads (Host.readFile path : StateM World _) := by
  intro world
  rfl

end OnlyReads

/-! ## Reading -/

theorem onlyReads_readText (path : Path) : OnlyReads (readText path : StateM World _) := by
  refine .bind (.readFile path) fun outcome => ?_
  cases outcome with
  | error fault => exact .pure _
  | ok bytes =>
      dsimp only
      split <;> exact .pure _

theorem onlyReads_load (path : Path) : OnlyReads (RawConfig.load path : StateM World _) := by
  refine .bind (onlyReads_readText path) fun outcome => ?_
  cases outcome with
  | error fault => exact .pure _
  | ok text =>
      dsimp only
      split <;> exact .pure _

open CommandLine in
theorem onlyReads_readDocument (schema : String) (input : List UInt8) :
    OnlyReads (readDocument schema input : StateM World _) := by
  rw [readDocument]
  split
  · split <;> exact .pure _
  · refine .bind (onlyReads_readText ⟨schema⟩) fun outcome => ?_
    cases outcome <;> exact .pure _

open CommandLine in
theorem onlyReads_readOptions (arguments : GenerateArguments) :
    OnlyReads (readOptions arguments : StateM World _) := by
  rw [readOptions]
  split
  · exact .pure _
  · rename_i path _
    refine .bind (onlyReads_load path) fun outcome => ?_
    cases outcome <;> exact .pure _

/-! ## Generating -/

theorem ignoresLog_reportAll (events : List Event) :
    IgnoresLog (reportAll events : StateM World _) := by
  induction events with
  | nil => exact .pure ()
  | cons event events ih => exact .bind (.report event) fun _ => ih

theorem ignoresLog_writeFiles (files : List PlannedFile) :
    IgnoresLog (writeFiles files : StateM World _) := by
  induction files with
  | nil => exact .pure _
  | cons file files ih =>
      refine .bind (.writeFile file.path file.contents.toUTF8) fun outcome => ?_
      cases outcome with
      | error fault => exact .pure _
      | ok _ => exact .bind (.report _) fun _ => ih

theorem ignoresLog_write (plan : Plan) : IgnoresLog (plan.write : StateM World _) := by
  refine .bind (.createDirectories plan.root) fun outcome => ?_
  cases outcome with
  | error fault => exact .pure _
  | ok _ => exact ignoresLog_writeFiles plan.files

theorem ignoresLog_generate (datamodel : Datamodel) (config : Config) :
    IgnoresLog (generate datamodel config : StateM World _) := by
  refine .bind (ignoresLog_reportAll _) fun _ => .bind (ignoresLog_write _) fun outcome => ?_
  cases outcome with
  | error failure => exact .pure _
  | ok _ => exact .bind (.report _) fun _ => .pure _

theorem ignoresLog_generateFor (parameters : Json) :
    IgnoresLog (generateFor parameters : StateM World _) := by
  rw [generateFor]
  split
  · exact .pure _
  · refine .bind (ignoresLog_generate _ _) fun outcome => ?_
    cases outcome <;> exact .pure _

theorem ignoresLog_perform (request : Request) :
    IgnoresLog (request.perform : StateM World _) := by
  refine .bind (.report _) fun _ => ?_
  split
  · exact .pure _
  · split
    · refine .bind (ignoresLog_generateFor _) fun outcome => ?_
      cases outcome with
      | error message => exact .bind (.report _) fun _ => .pure _
      | ok _ => exact .pure _
    · exact .pure _

/-! ## Serving -/

theorem ignoresLog_answer? (line : String) : IgnoresLog (answer? line : StateM World _) := by
  rw [answer?]
  split
  · exact .pure _
  · split
    · exact .pure _
    · exact .bind (ignoresLog_perform _) fun _ => .pure _

theorem ignoresLog_serveLines (lines : List (List UInt8)) :
    IgnoresLog (serveLines lines : StateM World _) := by
  induction lines with
  | nil => exact .pure _
  | cons line lines ih =>
      rw [serveLines]
      split
      · exact .pure _
      · exact .bind (ignoresLog_answer? _) fun _ => .bind ih fun _ => .pure _

end PrismaZod
