import PrismaZod.Proofs.Plan.Links

/-!
# Every reference resolves

The plans of a closed datamodel have no dangling reference: in several files
every import leads to the one file that declares it, and imports make no cycle;
in one file what a block refers to is declared by an earlier block.
-/

namespace PrismaZod

open Text

/-- In a plan of several files every import and every export leads to the file
that it names. -/
structure Plan.Linked (datamodel : Datamodel) (coerceDate : Bool) (plan : Plan) : Prop where
  imports_known : ∀ file ∈ plan.files, ∀ line ∈ importLines file.contents,
    line = "import \x7b z \x7d from 'zod';" ∨
      ∃ name, line = "import \x7b " ++ name ++ "Schema \x7d from './" ++ name ++ "';"
  /-- The file that an import names is the only one with its path. -/
  imports_resolve : ∀ file ∈ plan.files, ∀ name,
    "import \x7b " ++ name ++ "Schema \x7d from './" ++ name ++ "';" ∈
        importLines file.contents →
      ∃ enumeration ∈ datamodel.enumerations, enumeration.name = name ∧
        plan.files.filter (·.path.same (filePath plan.root name)) =
          [enumeration.declaration.file plan.root] ∧
        plan.file? name = some (enumeration.declaration.file plan.root) ∧
        ∃ before after, (enumeration.declaration.file plan.root).contents =
          before ++ enumerationOpening name ++ after
  imports_directed : ∀ importer imported, plan.Imports importer imported →
    (∃ model ∈ datamodel.models,
        importer = (model.declaration coerceDate).file plan.root) ∧
      ∃ enumeration ∈ datamodel.enumerations,
        imported = enumeration.declaration.file plan.root
  imports_acyclic : ∀ file, ¬ Relation.TransGen plan.Imports file file
  /-- The index is the last file and exports those before it. -/
  exports : ∃ entities index, plan.files = entities ++ [index] ∧
    plan.file? "index" = some index ∧
    (lines index.contents).filter (· ≠ "") =
      (datamodel.entityNames.map fun name => "export * from './" ++ name ++ "';") ∧
    datamodel.entityNames.map plan.file? = entities.map some

/-- In a plan of one file every enumeration is declared before it is used. -/
structure Plan.Ordered (declarations : List Declaration) (plan : Plan) : Prop where
  blocks : plan.files.map (·.contents) =
    ["import \x7b z \x7d from 'zod';" ++ "\n" ++
      String.join (declarations.map Declaration.block)]
  declared_before : ∀ before declaration after,
    declarations = before ++ declaration :: after → ∀ name ∈ declaration.references,
      ∃ earlier ∈ before, earlier.name = name ∧
        ∃ rest, earlier.source = enumerationOpening name ++ rest

namespace Datamodel.Closed

variable {datamodel : Datamodel} (closed : datamodel.Closed) (config : Config)

include closed

theorem resolves {enumeration : Enumeration} (among : enumeration ∈ datamodel.enumerations) :
    (Plan.separate datamodel config).files.filter
        (·.path.same (filePath config.output enumeration.name)) =
      [enumeration.declaration.file config.output] := by
  have declares : enumeration.declaration ∈ datamodel.declarations config.coerceDate :=
    List.mem_append_left _ (List.mem_map_of_mem among)
  have named : enumeration.declaration.name = enumeration.name := rfl
  rw [← named]
  exact closed.filter_declaration declares

theorem enumeration_file_ne_model_file {enumeration : Enumeration} {model : Model}
    (isEnumeration : enumeration ∈ datamodel.enumerations) (isModel : model ∈ datamodel.models)
    (coerceDate : Bool) (root : Path) :
    enumeration.declaration.file root ≠ (model.declaration coerceDate).file root := by
  intro equal
  have enumerationName : enumeration.name ∈ datamodel.enumerations.map (·.name) :=
    List.mem_map_of_mem isEnumeration
  have modelName : model.name ∈ datamodel.models.map (·.name) := List.mem_map_of_mem isModel
  have free {name : String} (isName : name ∈ datamodel.entityNames) : Free '/' name :=
    (closed.words name isName).free '/' (by decide)
  have samePath : filePath root enumeration.name = filePath root model.name :=
    congrArg PlannedFile.path equal
  have sameName : enumeration.name = model.name := by
    apply (same_filePath_iff root (free (List.mem_append_left _ enumerationName))
      (free (List.mem_append_right _ modelName))).mp
    simp [samePath, Path.same]
  exact (List.nodup_append.mp closed.distinct).2.2 _ enumerationName _ modelName sameName

theorem imports_directed {importer imported : PlannedFile}
    (imports : (Plan.separate datamodel config).Imports importer imported) :
    (∃ model ∈ datamodel.models,
        importer = (model.declaration config.coerceDate).file config.output) ∧
      ∃ enumeration ∈ datamodel.enumerations,
        imported = enumeration.declaration.file config.output := by
  obtain ⟨planned, name, line, found⟩ := imports
  rw [← schemaImport_eq] at line
  obtain ⟨model, enumeration, among, rfl⟩ := closed.exists_of_schemaImport_mem planned line
  rw [Plan.file?_eq_head?] at found
  refine ⟨model, enumeration, among, ?_⟩
  have single := closed.resolves config among
  simp only [Plan.separate] at found single
  rw [single] at found
  exact (Option.some.inj found).symm

/-- A cycle would end at the file of an enumeration, which imports nothing. -/
theorem imports_acyclic (file : PlannedFile) :
    ¬ Relation.TransGen (Plan.separate datamodel config).Imports file file := by
  intro cycle
  have isImporter : ∃ imported, (Plan.separate datamodel config).Imports file imported := by
    cases Relation.TransGen.head'_iff.mp cycle with
    | intro imported edge => exact ⟨imported, edge.1⟩
  have isImported : ∃ importer, (Plan.separate datamodel config).Imports importer file := by
    cases Relation.TransGen.tail'_iff.mp cycle with
    | intro importer edge => exact ⟨importer, edge.2⟩
  obtain ⟨imported, importing⟩ := isImporter
  obtain ⟨importer, importedFrom⟩ := isImported
  obtain ⟨⟨model, isModel, ofModel⟩, -⟩ := closed.imports_directed config importing
  obtain ⟨-, enumeration, isEnumeration, ofEnumeration⟩ :=
    closed.imports_directed config importedFrom
  exact closed.enumeration_file_ne_model_file isEnumeration isModel _ _
    (ofEnumeration.symm.trans ofModel)

theorem linked : (Plan.separate datamodel config).Linked datamodel config.coerceDate := by
  constructor
  case imports_known =>
    intro file planned line imported
    rcases closed.importLines_of_mem planned with none | ⟨declaration, -, -, imports⟩
    · rw [none] at imported
      contradiction
    · rw [imports, List.mem_cons] at imported
      rcases imported with ofLibrary | ofSchema
      · exact .inl ofLibrary
      · obtain ⟨name, -, rfl⟩ := List.mem_map.mp ofSchema
        exact .inr ⟨name, schemaImport_eq name⟩
  case imports_resolve =>
    intro file planned name imported
    rw [← schemaImport_eq] at imported
    obtain ⟨-, enumeration, among, rfl⟩ := closed.exists_of_schemaImport_mem planned imported
    have single := closed.resolves config among
    refine ⟨enumeration, among, rfl, single, ?_, ?_⟩
    · rw [Plan.file?_eq_head?]
      exact congrArg List.head? single
    · obtain ⟨rest, opened⟩ := enumeration.exists_source_eq
      refine ⟨enumeration.declaration.importText ++ "\n", rest ++ "\n", ?_⟩
      simp only [Declaration.file, Declaration.fileText_eq, Declaration.block, opened,
        String.append_assoc]
  case imports_directed => exact fun _ _ imports => closed.imports_directed config imports
  case imports_acyclic => exact closed.imports_acyclic config
  case exports =>
    refine ⟨(datamodel.declarations config.coerceDate).map (·.file config.output),
      ⟨filePath config.output indexStem, datamodel.indexText⟩, rfl, ?_,
      (lines_indexText closed.words).1, ?_⟩
    · rw [Plan.file?_eq_head?]
      exact congrArg List.head? (closed.filter_index config)
    · rw [← datamodel.declarations_names config.coerceDate, List.map_map, List.map_map]
      apply List.map_congr_left
      intro declaration declares
      simp only [Function.comp_apply]
      rw [Plan.file?_eq_head?]
      exact congrArg List.head? (closed.filter_declaration declares)

/-- All enumerations stand before the first model. -/
theorem declared_before {coerceDate : Bool} {before after : List Declaration}
    {declaration : Declaration}
    (split : datamodel.declarations coerceDate = before ++ declaration :: after)
    {name : String} (refers : name ∈ declaration.references) :
    ∃ earlier ∈ before, earlier.name = name ∧
      ∃ rest, earlier.source = enumerationOpening name ++ rest := by
  have declares : declaration ∈ datamodel.declarations coerceDate := by
    rw [split]
    exact List.mem_append_right _ List.mem_cons_self
  obtain ⟨-, enumeration, among, rfl⟩ := closed.exists_enumeration declares refers
  refine ⟨enumeration.declaration, ?_, rfl, enumeration.exists_source_eq⟩
  have isDeclaration : enumeration.declaration ∈
      datamodel.enumerations.map Enumeration.declaration := List.mem_map_of_mem among
  rcases List.append_eq_append_iff.mp split with
    ⟨between, beforeEq, -⟩ | ⟨between, enumerationsEq, modelsEq⟩
  · rw [beforeEq]
    exact List.mem_append_left _ isDeclaration
  · cases between with
    | nil =>
        rw [List.append_nil] at enumerationsEq
        rwa [← enumerationsEq]
    | cons head between =>
        -- The block would be that of an enumeration, which refers to nothing.
        have atHead : declaration = head := (List.cons.inj modelsEq).1
        have isEnumeration : declaration ∈
            datamodel.enumerations.map Enumeration.declaration := by
          rw [enumerationsEq, atHead]
          exact List.mem_append_right _ List.mem_cons_self
        obtain ⟨other, -, rfl⟩ := List.mem_map.mp isEnumeration
        simp at refers

theorem ordered :
    (Plan.combined datamodel config).Ordered (datamodel.declarations config.coerceDate) where
  blocks := by simp [Plan.combined, combinedText_eq, zodImport]
  declared_before := fun _ _ _ split _ refers => closed.declared_before split refers

end Datamodel.Closed

/-- No plan of a closed datamodel has a dangling reference. -/
theorem plan_references_resolve (datamodel : Datamodel) (config : Config)
    (closed : datamodel.Closed) :
    (config.multipleFiles = true →
      (plan datamodel config).Linked datamodel config.coerceDate) ∧
    (config.multipleFiles = false →
      (plan datamodel config).Ordered
        (datamodel.enumerations.map Enumeration.declaration ++
          datamodel.models.map (·.declaration config.coerceDate))) := by
  constructor
  · intro multiple
    rw [plan, if_pos multiple]
    exact closed.linked config
  · intro single
    rw [plan, if_neg (by simp [single])]
    exact closed.ordered config

/-- A model that refers to an enumeration twice, once in a list with a default. -/
theorem plan_references_resolve_role :
    let role := Enumeration.ofNames "Role" ["ADMIN"]
    let fields := [Field.enumeration "role" "Role",
      (Field.enumeration "roles" "Role").list.withDefault (.string "ADMIN")]
    let user : Model := ⟨"User", none, fields, none⟩
    let datamodel : Datamodel := ⟨[user], [role]⟩
    let config : Config := ⟨⟨"./out/"⟩, true, true, false⟩
    datamodel.Closed ∧
      (plan datamodel config).files[1]?.map (importLines ·.contents) =
        some ["import \x7b z \x7d from 'zod';", "import \x7b RoleSchema \x7d from './Role';"] ∧
      (plan datamodel config).Linked datamodel true ∧
      (plan datamodel { config with multipleFiles := false }).Ordered
        (datamodel.enumerations.map Enumeration.declaration ++
          datamodel.models.map (·.declaration true)) := by
  intro role fields user datamodel config
  have closed : datamodel.Closed :=
    ⟨by decide, by decide, by decide, by simp [datamodel, user, fields]; decide⟩
  have words : ∀ name ∈ (user.declaration true).references, IsWord name := by decide
  have imports := importLines_fileText words
  exact ⟨closed, congrArg some (imports.trans (by decide)),
    (plan_references_resolve datamodel config closed).1 rfl,
    (plan_references_resolve datamodel { config with multipleFiles := false } closed).2 rfl⟩

end PrismaZod
