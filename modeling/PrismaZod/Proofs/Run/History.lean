import PrismaZod.Proofs.Run.Basic

/-!
# Histories of runs

Runs of all kinds follow each other on one disk, where a service performs the
runs that its lines ask for.  However they are mixed, a file holds what the last
run that wrote it wrote, or what it held at first; nothing is removed, and a
directory is new only if a prefix of a root names it.
-/

namespace PrismaZod

open Disk

/-- Runs in order on a disk: their answers, their roots, the files that they
write, and the disk that is left. -/
inductive History : Disk → List Run → List Answer → List Path → List PlannedFile → Disk → Prop
  | done (disk : Disk) : History disk [] [] [] [] disk
  | step {before middle after : Disk} {run : Run} {runs : List Run} {answer : Answer}
      {answers : List Answer} {roots further : List Path} {written more : List PlannedFile} :
      run.Effect before answer roots written middle →
      History middle runs answers further more after →
        History before (run :: runs) (answer :: answers) (roots ++ further) (written ++ more) after

theorem History.changes {before after : Disk} {runs : List Run} {answers : List Answer}
    {roots : List Path} {written : List PlannedFile} (tree : before.IsTree)
    (history : History before runs answers roots written after) :
    before.Changes roots written after := by
  induction history with
  | done disk => exact .refl tree
  | step effect _ ih =>
      have first := effect.changes tree
      exact first.trans (ih first.tree)

theorem exists_history (runs : List Run) {start : World} (tree : start.disk.IsTree) :
    ∃ roots written, History start.disk runs ((runs.mapM Run.perform).run start).1 roots written
      ((runs.mapM Run.perform).run start).2.disk := by
  induction runs generalizing start with
  | nil => exact ⟨[], [], .done start.disk⟩
  | cons run runs ih =>
      obtain ⟨roots, written, effect⟩ := run.perform_effect tree
      obtain ⟨further, more, history⟩ := ih (effect.changes tree).tree
      rw [List.mapM_cons, run_bind, run_bind, run_pure]
      exact ⟨roots ++ further, written ++ more, .step effect history⟩

/-! ## The runs of a service -/

namespace Run

/-- The run that a line asks a service for. -/
def ofLine? (text : String) : Option Run :=
  if Text.isBlankText text then none
  else
    match Request.ofLine text with
    | .error _ => none
    | .ok whole =>
        if whole.method = "generate" then some (.request whole.id whole.parameters) else none

/-- The runs that lines ask a service for, up to one that is no text. -/
def ofLines : List (List UInt8) → List Run
  | [] => []
  | line :: rest =>
      match Framing.text? line with
      | none => []
      | some text =>
          match ofLine? text with
          | none => ofLines rest
          | some run => run :: ofLines rest

theorem disk_answer?_of_none {text : String} (asksNothing : ofLine? text = none) (world : World) :
    ((answer? text : StateM World _).run world).2.disk = world.disk := by
  rw [ofLine?] at asksNothing
  rw [answer?]
  by_cases blank : Text.isBlankText text = true
  · rw [if_pos blank, run_pure]
  · rw [if_neg blank] at asksNothing ⊢
    cases valid : Request.ofLine text with
    | error fault => rfl
    | ok whole =>
        rw [valid] at asksNothing
        dsimp only at asksNothing ⊢
        by_cases generates : whole.method = "generate"
        · rw [if_pos generates] at asksNothing
          cases asksNothing
        · rw [run_bind, run_pure, Request.perform, run_bind, if_neg generates]
          split <;> rfl

theorem run_answer?_of_some {text : String} {run : Run} (asks : ofLine? text = some run)
    (world : World) :
    IgnoresLog run.perform ∧
      (∃ response, ((answer? text : StateM World _).run world).1 = some response ∧
        (run.perform.run world).1 = .request response.outcome) ∧
      ((answer? text : StateM World _).run world).2.disk = (run.perform.run world).2.disk := by
  rw [ofLine?] at asks
  rw [answer?]
  by_cases blank : Text.isBlankText text = true
  · rw [if_pos blank] at asks
    cases asks
  · rw [if_neg blank] at asks ⊢
    cases valid : Request.ofLine text with
    | error fault =>
        rw [valid] at asks
        cases asks
    | ok whole =>
        obtain ⟨method, parameters, id⟩ := whole
        rw [valid] at asks
        dsimp only at asks ⊢
        by_cases generates : method = "generate"
        · rw [if_pos generates] at asks
          cases asks
          subst generates
          refine ⟨.bind (ignoresLog_perform _) fun _ => .pure _, ?_, rfl⟩
          exact ⟨⟨id, _⟩, rfl, rfl⟩
        · rw [if_neg generates] at asks
          cases asks

end Run

/-- A service performs the runs that its lines ask for, in order, and its
responses carry their answers. -/
theorem serveLines_performs (lines : List (List UInt8)) {first second : World}
    (same : first.disk = second.disk) :
    ((serveLines lines : StateM World _).run first).2.disk =
        (((Run.ofLines lines).mapM Run.perform).run second).2.disk ∧
      (((Run.ofLines lines).mapM Run.perform).run second).1.Sublist
        (((serveLines lines : StateM World _).run first).1.responses.map
          fun response => .request response.outcome) := by
  induction lines generalizing first second with
  | nil => exact ⟨same, .slnil⟩
  | cons line lines ih =>
      rw [serveLines, Run.ofLines]
      cases decoded : Framing.text? line with
      | none => exact ⟨same, .slnil⟩
      | some text =>
          dsimp only
          rw [run_bind, run_bind, run_pure]
          cases asked : Run.ofLine? text with
          | none =>
              have unchanged := Run.disk_answer?_of_none asked first
              obtain ⟨sameDisk, among⟩ := ih (unchanged.trans same)
              refine ⟨sameDisk, ?_⟩
              rw [List.map_append]
              exact among.trans (List.sublist_append_right _ _)
          | some run =>
              obtain ⟨ignores, ⟨response, answered, outcome⟩, performed⟩ :=
                Run.run_answer?_of_some asked first
              obtain ⟨sameAnswer, sameLeft⟩ := ignores.congr same
              obtain ⟨sameDisk, among⟩ := ih (performed.trans sameLeft)
              dsimp only
              rw [List.mapM_cons, run_bind, run_bind, run_pure]
              refine ⟨sameDisk, ?_⟩
              rw [answered, ← sameAnswer, outcome, Option.toList_some, List.singleton_append,
                List.map_cons]
              exact among.cons_cons _

/-- Whatever runs follow each other on a tree, each of them comes to one of the
effects that a run can have, and in the end the tree has changed by the files
that they wrote and by directories on the way to their roots.  The requests to a
service are such runs. -/
theorem runs_effect (start : World) (tree : start.disk.IsTree) (runs : List Run) :
    (∃ roots written,
      History start.disk runs ((runs.mapM Run.perform).run start).1 roots written
        ((runs.mapM Run.perform).run start).2.disk ∧
      start.disk.Changes roots written ((runs.mapM Run.perform).run start).2.disk) ∧
    ∀ input : List UInt8,
      ((serve input : StateM World _).run start).2.disk =
          (((Run.ofLines (Framing.lines input)).mapM Run.perform).run start).2.disk ∧
        (((Run.ofLines (Framing.lines input)).mapM Run.perform).run start).1.Sublist
          (((serve input : StateM World _).run start).1.responses.map
            fun response => .request response.outcome) := by
  refine ⟨?_, fun input => serveLines_performs (Framing.lines input) rfl⟩
  obtain ⟨roots, written, history⟩ := exists_history runs tree
  exact ⟨roots, written, history, history.changes tree⟩

/-- A run that writes outside the working directory, and two that cannot read
what to generate. -/
theorem runs_effect_fresh :
    let start : World := ⟨.fresh, []⟩
    let runs : List Run := [
      .library ⟨[], [Enumeration.ofNames "Role" ["ADMIN"]]⟩ ⟨⟨"../out"⟩, true, true, false⟩,
      .command ⟨"-", none, none, []⟩ [],
      .request .null .null]
    start.disk.IsTree ∧ ∃ roots written,
      History start.disk runs ((runs.mapM Run.perform).run start).1 roots written
        ((runs.mapM Run.perform).run start).2.disk ∧
      start.disk.Changes roots written ((runs.mapM Run.perform).run start).2.disk := by
  intro start runs
  have tree : start.disk.IsTree := isTree_fresh
  exact ⟨tree, (runs_effect start tree runs).1⟩

end PrismaZod
