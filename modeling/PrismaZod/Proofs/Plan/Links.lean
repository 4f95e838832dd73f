import Mathlib.Logic.Relation
import PrismaZod.Proofs.Plan.Lookup
import PrismaZod.Proofs.Schema.References

/-!
# Links between generated files

A file imports what its first lines name.  In a datamodel whose names are
distinct words, and whose enumerations are all declared, every import leads to
the file of an enumeration, the index exports each file once, and in one file
every enumeration stands before the models that refer to it.
-/

namespace PrismaZod

open Text

/-- The import lines at the front of a file. -/
def importLines (contents : String) : List String :=
  (lines contents).takeWhile fun line => "import ".toList.isPrefixOf line.toList

/-- A file imports another if a line at its front names the stem of the other. -/
def Plan.Imports (plan : Plan) (importer imported : PlannedFile) : Prop :=
  importer ∈ plan.files ∧
    ∃ name, "import \x7b " ++ name ++ "Schema \x7d from './" ++ name ++ "';" ∈
        importLines importer.contents ∧
      plan.file? name = some imported

/-- The names of the datamodel are distinct words, none of them that of the
index, and every enumeration that a field refers to is declared. -/
structure Datamodel.Closed (datamodel : Datamodel) : Prop where
  words : ∀ name ∈ datamodel.entityNames, IsWord name
  distinct : datamodel.entityNames.Nodup
  not_index : "index" ∉ datamodel.entityNames
  declared : ∀ model ∈ datamodel.models, ∀ field ∈ model.fields,
    field.isRelation = false → field.kind = .enumeration →
      field.type ∈ datamodel.enumerations.map (·.name)

/-- The file of a declaration in a plan of several. -/
def Declaration.file (declaration : Declaration) (root : Path) : PlannedFile :=
  ⟨filePath root declaration.name, declaration.fileText⟩

/-- A plan of several has the files of the enumerations, those of the models and
the index. -/
theorem Plan.separate_files_eq_append (datamodel : Datamodel) (config : Config) :
    (separate datamodel config).files =
      datamodel.enumerations.map (·.declaration.file config.output) ++
        datamodel.models.map
          (fun model => (model.declaration config.coerceDate).file config.output) ++
        [⟨filePath config.output indexStem, datamodel.indexText⟩] := by
  simp [separate, Datamodel.declarations, Declaration.file, Function.comp_def]

/-- How the declaration of an enumeration with a name starts. -/
def enumerationOpening (name : String) : String :=
  "export const " ++ name ++ "Schema = z.enum("

theorem lines_endedLines {list : List String} (free : ∀ line ∈ list, Free '\n' line)
    (text : String) : lines (endedLines list ++ text) = list ++ lines text := by
  induction list with
  | nil => simp
  | cons line list ih =>
      rw [List.forall_mem_cons] at free
      rw [endedLines_cons, String.append_assoc, lines_append_break free.1, ih free.2]
      rfl

theorem schemaImport_free {name : String} (word : IsWord name) :
    Free '\n' (schemaImport name) := by
  have free := word.free '\n' (by decide)
  simpa [Free, schemaImport, schemaName] using free

theorem fileExport_toList (name : String) :
    (fileExport name).toList = "export * from './".toList ++ (name.toList ++ "';".toList) := by
  unfold fileExport
  rw [String.toList_append, String.toList_append, List.append_assoc]

theorem fileExport_free {name : String} (word : IsWord name) : Free '\n' (fileExport name) := by
  have free := word.free '\n' (by decide)
  simpa [Free, fileExport_toList] using free

theorem schemaImport_injective {first second : String}
    (equal : schemaImport first = schemaImport second) : first = second := by
  have chars := congrArg String.toList equal
  have lengths := congrArg List.length chars
  simp only [schemaImport, schemaName, String.toList_append, List.length_append] at lengths
  simp only [schemaImport, schemaName, String.toList_append, List.append_assoc] at chars
  exact String.toList_injective
    (List.append_inj_left (List.append_cancel_left chars) (by omega))

theorem zodImport_ne_schemaImport (name : String) : schemaImport name ≠ zodImport := by
  intro equal
  have lengths := congrArg (·.toList.length) equal
  simp [schemaImport, schemaName, zodImport] at lengths
  omega

theorem importLines_fileText {declaration : Declaration}
    (words : ∀ name ∈ declaration.references, IsWord name) :
    importLines declaration.fileText =
      zodImport :: declaration.references.map schemaImport := by
  have free : ∀ line ∈ zodImport :: declaration.references.map schemaImport,
      Free '\n' line := by
    rw [List.forall_mem_cons]
    refine ⟨by decide, ?_⟩
    simpa using fun name refers => schemaImport_free (words name refers)
  have imports : ∀ line ∈ zodImport :: declaration.references.map schemaImport,
      "import ".toList.isPrefixOf line.toList = true := by
    rw [List.forall_mem_cons]
    refine ⟨by decide, ?_⟩
    simp [schemaImport]
  rw [importLines, Declaration.fileText_eq, Declaration.importText_eq, lines_endedLines free,
    List.takeWhile_append_of_pos imports, Declaration.block, String.append_assoc, lines_break]
  simp

namespace Datamodel

/-- The lines of the index are the exports, and an empty line at the end. -/
theorem lines_indexText {datamodel : Datamodel}
    (words : ∀ name ∈ datamodel.entityNames, IsWord name) :
    (lines datamodel.indexText).filter (· ≠ "") = datamodel.entityNames.map fileExport ∧
      importLines datamodel.indexText = [] := by
  have free : ∀ line ∈ datamodel.entityNames.map fileExport, Free '\n' line := by
    simpa using fun name isName => fileExport_free (words name isName)
  have notEmpty (name : String) : fileExport name ≠ "" := by
    intro equal
    have chars := congrArg String.toList equal
    simp [fileExport_toList] at chars
  unfold importLines
  rw [indexText_eq]
  split
  · rename_i none
    rw [none]
    decide
  · have exported := lines_endedLines free ""
    rw [String.append_empty, lines_empty] at exported
    rw [exported]
    constructor
    · simp [List.filter_append, List.filter_map, notEmpty, Function.comp_def]
    · cases names : datamodel.entityNames with
      | nil => contradiction
      | cons name names => simp [fileExport_toList]

end Datamodel

/-- The declaration of an enumeration starts as that of an enumeration does. -/
theorem Enumeration.exists_source_eq (enumeration : Enumeration) :
    ∃ rest, enumeration.declaration.source = enumerationOpening enumeration.name ++ rest := by
  have bracket : ("z.enum([" : String) = "z.enum(" ++ "[" := by decide
  have opening : ("Schema = z.enum(" : String) = "Schema" ++ " = " ++ "z.enum(" := by decide
  have body : ∃ rest, enumeration.declaration.body.source = "z.enum(" ++ rest := by
    simp only [Enumeration.declaration, Body.source, bracket, String.append_assoc]
    exact ⟨_, rfl⟩
  obtain ⟨values, spelled⟩ := body
  refine ⟨values ++ Declaration.closing enumeration.name, ?_⟩
  rw [Declaration.source_eq, spelled, enumerationOpening, opening]
  simp only [schemaName, String.append_assoc]
  rfl

namespace Datamodel.Closed

variable {datamodel : Datamodel} (closed : datamodel.Closed) {coerceDate : Bool}

include closed

theorem stems_nodup : (datamodel.entityNames ++ [indexStem]).Nodup := by
  rw [List.nodup_append]
  refine ⟨closed.distinct, by simp, ?_⟩
  intro name isName stem isIndex
  rw [List.mem_singleton.mp isIndex]
  rintro rfl
  exact closed.not_index isName

theorem exists_enumeration {declaration : Declaration}
    (declares : declaration ∈ datamodel.declarations coerceDate) {name : String}
    (refers : name ∈ declaration.references) :
    (∃ model ∈ datamodel.models, declaration = model.declaration coerceDate) ∧
      ∃ enumeration ∈ datamodel.enumerations, enumeration.name = name := by
  rcases List.mem_append.mp declares with isEnumeration | isModel
  · obtain ⟨enumeration, -, rfl⟩ := List.mem_map.mp isEnumeration
    simp at refers
  · obtain ⟨model, among, rfl⟩ := List.mem_map.mp isModel
    refine ⟨⟨model, among, rfl⟩, ?_⟩
    obtain ⟨field, isField, noRelation, enumeration, rfl⟩ :=
      Model.exists_field_of_mem_references refers
    exact List.mem_map.mp (closed.declared model among field isField
      (by simp [Field.isRelation, noRelation]) enumeration)

theorem references_words {declaration : Declaration}
    (declares : declaration ∈ datamodel.declarations coerceDate) :
    ∀ name ∈ declaration.references, IsWord name := by
  intro name refers
  obtain ⟨-, enumeration, among, rfl⟩ := closed.exists_enumeration declares refers
  exact closed.words _ (List.mem_append_left _ (List.mem_map_of_mem among))

theorem filter_declaration {config : Config} {declaration : Declaration}
    (declares : declaration ∈ datamodel.declarations config.coerceDate) :
    (Plan.separate datamodel config).files.filter
        (·.path.same (filePath config.output declaration.name)) =
      [declaration.file config.output] := by
  apply Plan.filter_separate
  · exact fun name isName => (closed.words name isName).free '/' (by decide)
  · exact closed.stems_nodup
  · exact List.mem_append_left _ (List.mem_map.mpr ⟨declaration, declares, rfl⟩)

theorem filter_index (config : Config) :
    (Plan.separate datamodel config).files.filter
        (·.path.same (filePath config.output indexStem)) =
      [⟨filePath config.output indexStem, datamodel.indexText⟩] := by
  apply Plan.filter_separate
  · exact fun name isName => (closed.words name isName).free '/' (by decide)
  · exact closed.stems_nodup
  · simp [Plan.separateNamed]

/-- What is imported at the front of a planned file: the library in the file of
a declaration, and the schemas that the declaration refers to. -/
theorem importLines_of_mem {config : Config} {file : PlannedFile}
    (planned : file ∈ (Plan.separate datamodel config).files) :
    importLines file.contents = [] ∨
      ∃ declaration ∈ datamodel.declarations config.coerceDate,
        file = declaration.file config.output ∧
          importLines file.contents =
            zodImport :: declaration.references.map schemaImport := by
  rcases List.mem_append.mp planned with ofDeclaration | isIndex
  · obtain ⟨declaration, declares, rfl⟩ := List.mem_map.mp ofDeclaration
    exact .inr ⟨declaration, declares, rfl,
      importLines_fileText (closed.references_words declares)⟩
  · rw [List.mem_singleton.mp isIndex]
    exact .inl (lines_indexText closed.words).2

/-- An import leads from the file of a model to that of an enumeration. -/
theorem exists_of_schemaImport_mem {config : Config} {file : PlannedFile} {name : String}
    (planned : file ∈ (Plan.separate datamodel config).files)
    (imported : schemaImport name ∈ importLines file.contents) :
    (∃ model ∈ datamodel.models,
        file = (model.declaration config.coerceDate).file config.output) ∧
      ∃ enumeration ∈ datamodel.enumerations, enumeration.name = name := by
  rcases closed.importLines_of_mem planned with none | ⟨declaration, declares, rfl, imports⟩
  · rw [none] at imported
    contradiction
  · rw [imports, List.mem_cons] at imported
    have refers : name ∈ declaration.references := by
      rcases imported with ofLibrary | ofSchema
      · exact (zodImport_ne_schemaImport name ofLibrary).elim
      · obtain ⟨other, refers, equal⟩ := List.mem_map.mp ofSchema
        exact schemaImport_injective equal ▸ refers
    obtain ⟨⟨model, among, rfl⟩, enumeration⟩ := closed.exists_enumeration declares refers
    exact ⟨⟨model, among, rfl⟩, enumeration⟩

end Datamodel.Closed

end PrismaZod
