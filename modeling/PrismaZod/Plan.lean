import PrismaZod.Config
import PrismaZod.Schema.Entity

/-!
# Plans

A plan says what a run writes, before anything is written: the directory, the
files with their contents, and what the schemas leave out.  Either one file
holds all declarations, or each entity has a file of its own and an index
exports them all.
-/

namespace PrismaZod

structure PlannedFile where
  path : Path
  contents : String
deriving DecidableEq, Repr, Inhabited

structure Plan where
  root : Path
  files : List PlannedFile
  diagnostics : List Diagnostic
deriving DecidableEq, Repr, Inhabited

/-- The stem of the file that holds or exports everything. -/
def indexStem : String := "index"

def filePath (root : Path) (stem : String) : Path :=
  root.join (stem ++ ".ts")

def Plan.file? (plan : Plan) (stem : String) : Option PlannedFile :=
  plan.files.find? fun file => file.path.same (filePath plan.root stem)

namespace Datamodel

/-- The names of all entities, enumerations first. -/
def entityNames (datamodel : Datamodel) : List String :=
  datamodel.enumerations.map (·.name) ++ datamodel.models.map (·.name)

/-- The declarations of all entities, enumerations first. -/
def declarations (datamodel : Datamodel) (coerceDate : Bool) : List Declaration :=
  datamodel.enumerations.map Enumeration.declaration ++
    datamodel.models.map (·.declaration coerceDate)

/-- What is left out of all models. -/
def diagnostics (datamodel : Datamodel) (coerceDate : Bool) : List Diagnostic :=
  datamodel.models.flatMap (·.diagnostics coerceDate)

/-- The text of the file that holds all declarations: the import and the
declarations, each followed by an empty line. -/
def combinedText (datamodel : Datamodel) (coerceDate : Bool) : String :=
  let blocks := (datamodel.declarations coerceDate).flatMap fun declaration =>
    [declaration.source, ""]
  "\n".intercalate (zodImport :: "" :: blocks)

/-- The text of the file that exports the files of all entities. -/
def indexText (datamodel : Datamodel) : String :=
  "\n".intercalate (datamodel.entityNames.map fileExport) ++ "\n"

end Datamodel

/-- The text of the file of an entity: the imports, an empty line and the
declaration. -/
def Declaration.fileText (declaration : Declaration) : String :=
  "\n".intercalate (zodImport :: declaration.references.map schemaImport) ++
    "\n\n" ++ declaration.source ++ "\n"

namespace Plan

def combined (datamodel : Datamodel) (config : Config) : Plan where
  root := config.output
  files := [⟨filePath config.output indexStem, datamodel.combinedText config.coerceDate⟩]
  diagnostics := datamodel.diagnostics config.coerceDate

/-- The plan of one file for each entity and an index. -/
def separate (datamodel : Datamodel) (config : Config) : Plan where
  root := config.output
  files :=
    (datamodel.declarations config.coerceDate).map
        (fun declaration => ⟨filePath config.output declaration.name, declaration.fileText⟩) ++
      [⟨filePath config.output indexStem, datamodel.indexText⟩]
  diagnostics := datamodel.diagnostics config.coerceDate

end Plan

def plan (datamodel : Datamodel) (config : Config) : Plan :=
  if config.multipleFiles then .separate datamodel config else .combined datamodel config

end PrismaZod
