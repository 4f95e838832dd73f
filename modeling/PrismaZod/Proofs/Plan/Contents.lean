import PrismaZod.Plan
import PrismaZod.Proofs.Source.Declaration

/-!
# Contents of planned files

The file of all declarations is the import of the library followed by the block
of each declaration.  The file of one declaration is its imports, each on a
line, followed by its block.  The index is a line for each file.
-/

namespace PrismaZod

open Text

/-- Breaking lines before each of them or after each of them differs only in
where the break outside stands. -/
private theorem break_before_after (lines : List String) :
    String.join (lines.map ("\n" ++ ·)) ++ "\n" =
      "\n" ++ String.join (lines.map (· ++ "\n")) := by
  induction lines with
  | nil => simp
  | cons line lines ih =>
      simp only [List.map_cons, String.join_cons, String.append_assoc, ih]

/-- Lines that each end with a break. -/
def endedLines (lines : List String) : String :=
  String.join (lines.map (· ++ "\n"))

@[simp]
theorem endedLines_nil : endedLines [] = "" := by
  simp [endedLines]

@[simp]
theorem endedLines_cons (line : String) (lines : List String) :
    endedLines (line :: lines) = line ++ "\n" ++ endedLines lines := by
  simp [endedLines]

theorem intercalate_break (line : String) (lines : List String) :
    "\n".intercalate (line :: lines) ++ "\n" = endedLines (line :: lines) := by
  rw [intercalate_cons, String.append_assoc, break_before_after, endedLines_cons, endedLines,
    String.append_assoc]

/-- The imports at the front of the file of a declaration, each on a line. -/
def Declaration.importText (declaration : Declaration) : String :=
  endedLines ("import \x7b z \x7d from 'zod';" :: declaration.references.map fun name =>
    "import \x7b " ++ name ++ "Schema \x7d from './" ++ name ++ "';")

theorem schemaImport_eq (name : String) :
    schemaImport name = "import \x7b " ++ name ++ "Schema \x7d from './" ++ name ++ "';" := by
  have ending : ("Schema \x7d from './" : String) = "Schema" ++ " \x7d from './" := by decide
  simp only [schemaImport, schemaName, ending, String.append_assoc]

theorem Declaration.importText_eq (declaration : Declaration) :
    declaration.importText =
      endedLines (zodImport :: declaration.references.map schemaImport) := by
  rw [funext schemaImport_eq]
  rfl

theorem Declaration.fileText_eq (declaration : Declaration) :
    declaration.fileText = declaration.importText ++ declaration.block := by
  have broken : ("\n\n" : String) = "\n" ++ "\n" := by decide
  rw [importText_eq, ← intercalate_break, fileText, block, broken]
  simp only [String.append_assoc]

namespace Datamodel

theorem combinedText_eq (datamodel : Datamodel) (coerceDate : Bool) :
    datamodel.combinedText coerceDate =
      zodImport ++ "\n" ++
        String.join ((datamodel.declarations coerceDate).map Declaration.block) := by
  have blocks (declarations : List Declaration) :
      String.join ((declarations.flatMap fun declaration => [declaration.source, ""]).map
        ("\n" ++ ·)) = String.join (declarations.map Declaration.block) := by
    induction declarations with
    | nil => rfl
    | cons declaration declarations ih =>
        simp [← ih, Declaration.block, String.append_assoc]
  rw [combinedText, intercalate_cons, List.map_cons, String.join_cons, blocks]
  simp [String.append_assoc]

/-- The index has a line for each entity; without entities it is one empty line. -/
theorem indexText_eq (datamodel : Datamodel) :
    datamodel.indexText =
      if datamodel.entityNames = [] then "\n"
      else endedLines (datamodel.entityNames.map fileExport) := by
  unfold indexText
  cases datamodel.entityNames with
  | nil => simp
  | cons name names => simpa using intercalate_break (fileExport name) (names.map fileExport)

end Datamodel

end PrismaZod
