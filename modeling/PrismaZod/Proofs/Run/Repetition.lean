import PrismaZod.Proofs.Disk.Repetition
import PrismaZod.Proofs.Run.Writing

/-!
# Generating again

What was generated can be generated again on the disk that it left: it comes to
the same result, by the same writes, and the disk stays as it is.  This also
holds where a write failed, since nothing that was written before it opens the
way to its path.
-/

namespace PrismaZod

open Disk

/-- The plan was carried out on the disk, to its end or up to a write that
failed. -/
def CarriedOut : Except Failure Plan → Prop
  | .ok _ => True
  | .error failure => ∃ path fault, failure = .write path fault

/-- Only a root that cannot be made keeps a plan from being carried out. -/
theorem Plan.Effect.carriedOut {plan : Plan} {before after : Disk}
    {result : Except Failure Plan} {written : List PlannedFile}
    (effect : plan.Effect before result written after)
    (made : (before.createDirectories plan.root).1 = .ok ()) : CarriedOut result := by
  cases effect with
  | noDirectory failed _ =>
      rw [failed] at made
      cases made
  | stopped _ _ _ _ _ => exact ⟨_, _, rfl⟩
  | finished _ _ _ _ => exact trivial

theorem Plan.Effect.again {plan : Plan} {before after : Disk} {result : Except Failure Plan}
    {written : List PlannedFile} (tree : before.IsTree) (carried : CarriedOut result)
    (effect : plan.Effect before result written after) :
    plan.Effect after result written after := by
  have created := creates_createDirectories tree plan.root
  cases effect with
  | noDirectory failed _ =>
      obtain ⟨path, fault, isWrite⟩ := carried
      cases isWrite
  | stopped success adds parts wrote fails =>
      rw [success] at created
      have keeps := (wrote.changes created.tree).keeps
      exact .stopped (createDirectories_again tree success keeps) (.refl _ after) parts
        (wrote.again created.tree) fails
  | finished success adds wrote held =>
      rw [success] at created
      have keeps := (wrote.changes created.tree).keeps
      exact .finished (createDirectories_again tree success keeps) (.refl _ after)
        (wrote.again created.tree) held

/-- Generating again what was generated comes to the same and changes nothing,
whatever the paths of the files have to do with each other. -/
theorem generate_again (datamodel : Datamodel) (config : Config) (disk : Disk)
    (tree : disk.IsTree) (carried : CarriedOut (disk.result (generate datamodel config))) :
    let after := disk.left (generate datamodel config)
    after.result (generate datamodel config) = disk.result (generate datamodel config) ∧
      after.left (generate datamodel config) = after := by
  intro after
  have start : (World.mk disk []).disk.IsTree := tree
  obtain ⟨written, effect⟩ := generate_effect datamodel config start
  have second : (plan datamodel config).Effect (World.mk after []).disk
      (disk.result (generate datamodel config)) written after := effect.again tree carried
  have runs := second.run_generate
  exact ⟨congrArg (·.1) runs, congrArg (·.2.disk) runs⟩

/-- An enumeration and a model that lead to one file, a model whose directory is
missing, and a root that leads back to where it starts. -/
theorem generate_again_same_place :
    let role := Enumeration.ofNames "Role" ["ADMIN"]
    let datamodel : Datamodel :=
      ⟨[⟨"../work/Role", none, [], none⟩, ⟨"missing/User", none, [], none⟩], [role]⟩
    let config : Config := ⟨⟨"out/.."⟩, true, true, false⟩
    let after := fresh.left (generate datamodel config)
    (fresh.IsTree ∧ CarriedOut (fresh.result (generate datamodel config))) ∧
      after.result (generate datamodel config) = fresh.result (generate datamodel config) ∧
      after.left (generate datamodel config) = after := by
  intro role datamodel config after
  have start : (World.mk fresh []).disk.IsTree := isTree_fresh
  obtain ⟨written, effect⟩ := generate_effect datamodel config start
  have made : (fresh.createDirectories ⟨"out/.."⟩).1 = .ok () := rfl
  have carried : CarriedOut (fresh.result (generate datamodel config)) := effect.carriedOut made
  exact ⟨⟨isTree_fresh, carried⟩, generate_again datamodel config fresh isTree_fresh carried⟩

end PrismaZod
