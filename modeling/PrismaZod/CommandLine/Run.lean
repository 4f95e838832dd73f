import PrismaZod.CommandLine.Arguments
import PrismaZod.Config.File
import PrismaZod.Datamodel.Document
import PrismaZod.Protocol.Serve

/-!
# Running a command

A run ends with a code: 0 if all went well, 1 with a report of what failed, and
2 if the arguments were wrong.  A report tells what could not be done and then
what caused it, from the outside in.
-/

namespace PrismaZod.CommandLine

/-- What a run that fails has to report. -/
structure Report where
  context : String
  causes : List String
deriving DecidableEq, Repr, Inhabited

namespace Report

/-- The lines of causes; several are numbered from zero. -/
def causeLines : List String → List String
  | [cause] => ["    " ++ cause]
  | causes => causes.zipIdx.map fun cause => "    " ++ cause.2.repr ++ ": " ++ cause.1

def text (report : Report) : String :=
  let heading := "Error: " ++ report.context
  if report.causes.isEmpty then heading
  else "\n".intercalate (heading :: "" :: "Caused by:" :: causeLines report.causes)

def ofFailure (failure : Failure) : Report :=
  ⟨failure.message, (failure.fault?.map FileFault.message).toList⟩

/-- The causes of a faulty document. How a text fails to be JSON is left out. -/
def documentCauses : DocumentFault → List String
  | .notJson => []
  | .notAnObject part => [(DocumentFault.notAnObject part).message]
  | .invalid fault => [(DocumentFault.invalid fault).message, fault.message]

end Report

/-- How a run ends: its code, what it writes to the standard output, the
responses it gives, and the report of what failed. -/
structure Ending where
  code : Nat
  output : String
  responses : List Response
  report : Option Report
deriving Repr, Inhabited

namespace Ending

def success (output : String) : Ending := ⟨0, output, [], none⟩

def failure (report : Report) : Ending := ⟨1, "", [], some report⟩

def misuse : Ending := ⟨2, "", [], none⟩

end Ending

def versionText : String := "zodgen 0.1.0\n"

def helpText : String :=
  "Usage: zodgen generate --schema FILE [--config FILE] [--output DIRECTORY] " ++
    "[--set KEY=VALUE]...\n       zodgen serve\n       zodgen manifest\n"

variable {m : Type → Type} [Monad m] [Host m]

/-- The text that a document argument leads to: the standard input for a
hyphen, or else a file. -/
def readDocument (schema : String) (input : List UInt8) : m (Except Report String) :=
  if schema = "-" then
    match Framing.text? input with
    | some text => pure (.ok text)
    | none => pure (.error ⟨"failed to read stdin", [FileFault.notUtf8.message]⟩)
  else do
    match ← readText ⟨schema⟩ with
    | .ok text => pure (.ok text)
    | .error fault =>
        pure (.error ⟨(Failure.read ⟨schema⟩ fault).subject, [fault.message]⟩)

/-- The options of the configuration file, if there is one, with the overrides
entered. -/
def readOptions (arguments : GenerateArguments) : m (Except Report RawConfig) := do
  match arguments.config with
  | none => pure (.ok (RawConfig.override [] arguments.overrides))
  | some path =>
      match ← RawConfig.load path with
      | .ok raw => pure (.ok (raw.override arguments.overrides))
      | .error failure => pure (.error (.ofFailure failure))

def runGenerate (arguments : GenerateArguments) (input : List UInt8) :
    m (Except Report Unit) := do
  match ← readDocument arguments.schema input with
  | .error report => pure (.error report)
  | .ok text =>
      match Datamodel.ofText text with
      | .error fault =>
          pure (.error ⟨"failed to parse " ++ arguments.schema, Report.documentCauses fault⟩)
      | .ok datamodel =>
          match ← readOptions arguments with
          | .error report => pure (.error report)
          | .ok raw =>
              match ← generate datamodel (Config.ofRaw raw arguments.output) with
              | .error failure => pure (.error (.ofFailure failure))
              | .ok _ => pure (.ok ())

/-- The report of a service that met bytes that are no text. -/
def brokenService : Report :=
  ⟨"generator protocol failed", [FileFault.notUtf8.message]⟩

def Command.run (command : Command) (input : List UInt8) : m Ending :=
  match command with
  | .version => pure (.success versionText)
  | .manifest => pure (.success (Manifest.standard.pretty ++ "\n"))
  | .generate arguments => do
      match ← runGenerate arguments input with
      | .ok () => pure (.success "")
      | .error report => pure (.failure report)
  | .serve => do
      let service ← PrismaZod.serve input
      if service.complete then pure { Ending.success "" with responses := service.responses }
      else pure { Ending.failure brokenService with responses := service.responses }

def run (arguments : List String) (input : List UInt8) : m Ending :=
  match Command.ofArguments arguments with
  | .ok command => command.run input
  | .error .helpAsked => pure (.success helpText)
  | .error _ => pure .misuse

end PrismaZod.CommandLine
