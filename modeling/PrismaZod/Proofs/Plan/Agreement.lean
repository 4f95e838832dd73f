import PrismaZod.Proofs.Plan.Contents

/-!
# One file or several

A plan of one file and a plan of several differ only in how the declarations are
put into files: the directory and what is left out are the same, and the files
of the entities, without their imports, make up the one file.
-/

namespace PrismaZod

namespace Datamodel

variable (datamodel : Datamodel)

theorem declarations_names (coerceDate : Bool) :
    (datamodel.declarations coerceDate).map (·.name) = datamodel.entityNames := by
  simp [declarations, entityNames, Function.comp_def, Enumeration.declaration,
    Model.declaration]

@[simp]
theorem length_declarations (coerceDate : Bool) :
    (datamodel.declarations coerceDate).length =
      datamodel.enumerations.length + datamodel.models.length := by
  simp [declarations]

end Datamodel

namespace Plan

variable (datamodel : Datamodel) (config : Config)

theorem separate_paths :
    (separate datamodel config).files.map (·.path) =
      (datamodel.entityNames ++ [indexStem]).map (filePath config.output) := by
  simp [separate, ← datamodel.declarations_names config.coerceDate]

/-- The files of entities are their imports and their blocks. -/
theorem separate_entity_contents :
    (separate datamodel config).files.dropLast.map (·.contents) =
      (datamodel.declarations config.coerceDate).map fun declaration =>
        declaration.importText ++ declaration.block := by
  simp [separate, Declaration.fileText_eq]

end Plan

/-- What a plan of one file and one of several have in common, for a datamodel
with the given declarations. -/
structure Plan.Agree (datamodel : Datamodel) (entities : List Declaration)
    (combined separate : Plan) : Prop where
  root : combined.root = separate.root
  diagnostics : combined.diagnostics = separate.diagnostics
  count : separate.files.length =
    datamodel.enumerations.length + datamodel.models.length + 1
  paths : separate.files.map (·.path) =
    (datamodel.entityNames.map fun name => separate.root.join (name ++ ".ts")) ++
      [separate.root.join "index.ts"]
  /-- What is left of the files of entities without their imports makes up the
  one file. -/
  contents : ∃ remainders : List String, remainders.length = entities.length ∧
    separate.files.dropLast.map (·.contents) =
      List.zipWith (fun declaration remainder => declaration.importText ++ remainder)
        entities remainders ∧
    combined.files =
      [⟨combined.root.join "index.ts",
        "import \x7b z \x7d from 'zod';" ++ "\n" ++ String.join remainders⟩]

/-- Plans for one datamodel that differ in how many files they have agree. -/
theorem plan_agree (datamodel : Datamodel) (one several : Config)
    (sameOutput : one.output = several.output)
    (sameDates : one.coerceDate = several.coerceDate)
    (single : one.multipleFiles = false) (multiple : several.multipleFiles = true) :
    Plan.Agree datamodel (datamodel.declarations several.coerceDate)
      (plan datamodel one) (plan datamodel several) := by
  have combinedPlan : plan datamodel one = .combined datamodel one := by
    simp [plan, single]
  have separatePlan : plan datamodel several = .separate datamodel several := by
    simp [plan, multiple]
  have indexFile : indexStem ++ ".ts" = "index.ts" := by decide
  rw [combinedPlan, separatePlan]
  constructor
  case root => exact sameOutput
  case diagnostics => simp [Plan.combined, Plan.separate, sameDates]
  case count => simp [Plan.separate]
  case paths =>
    rw [Plan.separate_paths, List.map_append, List.map_singleton, filePath, indexFile]
    rfl
  case contents =>
    refine ⟨(datamodel.declarations several.coerceDate).map Declaration.block, ?_, ?_, ?_⟩
    · simp
    · rw [Plan.separate_entity_contents, List.zipWith_map_right, List.zipWith_self]
    · simp [Plan.combined, filePath, indexFile, Datamodel.combinedText_eq, zodImport, sameDates]

/-- With an enumeration and a model that refers to it, and with nothing at all. -/
theorem plan_agree_role :
    let role := Enumeration.ofNames "Role" ["ADMIN"]
    let user : Model := ⟨"User", none, [Field.enumeration "role" "Role"], none⟩
    let one : Config := ⟨⟨"out"⟩, false, true, false⟩
    let several : Config := ⟨⟨"out"⟩, true, true, true⟩
    (one.output = several.output ∧ one.coerceDate = several.coerceDate ∧
      one.multipleFiles = false ∧ several.multipleFiles = true) ∧
    Plan.Agree ⟨[user], [role]⟩ [role.declaration, user.declaration true]
      (plan ⟨[user], [role]⟩ one) (plan ⟨[user], [role]⟩ several) ∧
    Plan.Agree .empty [] (plan .empty one) (plan .empty several) := by
  intro role user one several
  exact ⟨⟨rfl, rfl, rfl, rfl⟩, plan_agree ⟨[user], [role]⟩ one several rfl rfl rfl rfl,
    plan_agree .empty one several rfl rfl rfl rfl⟩

end PrismaZod
