import PrismaZod.Host

/-!
# Generating files

A run makes its plan, creates the output directory and writes the planned files
in order, each in the stead of the file that may be there.  It stops at the
first failure; what it has written by then stays.
-/

namespace PrismaZod

/-- Why a run fails on the host. -/
inductive Failure
  | read (path : Path) (fault : FileFault)
  | createDirectory (path : Path) (fault : FileFault)
  | write (path : Path) (fault : FileFault)
  /-- The configuration file is no TOML. -/
  | config (path : Path)
deriving DecidableEq, Repr, Inhabited

namespace Failure

def subject : Failure → String
  | read path _ => "failed to read " ++ path.text
  | createDirectory path _ => "failed to create directory " ++ path.text
  | write path _ => "failed to write " ++ path.text
  | config path => "invalid config file " ++ path.text

def fault? : Failure → Option FileFault
  | read _ fault | createDirectory _ fault | write _ fault => some fault
  | config _ => none

def message (failure : Failure) : String :=
  match failure.fault? with
  | some fault => failure.subject ++ ": " ++ fault.message
  | none => failure.subject

end Failure

variable {m : Type → Type} [Monad m] [Host m]

def reportAll : List Event → m Unit
  | [] => pure ()
  | event :: rest => do
      Host.report event
      reportAll rest

/-- Write files in order, up to the first failure. -/
def writeFiles : List PlannedFile → m (Except Failure Unit)
  | [] => pure (.ok ())
  | file :: rest => do
      match ← Host.writeFile file.path file.contents.toUTF8 with
      | .error fault => pure (.error (.write file.path fault))
      | .ok () =>
          Host.report (.wrote file.path)
          writeFiles rest

/-- Create the directory of a plan and write its files. -/
def Plan.write (plan : Plan) : m (Except Failure Unit) := do
  match ← Host.createDirectories plan.root with
  | .error fault => pure (.error (.createDirectory plan.root fault))
  | .ok () => writeFiles plan.files

def generate (datamodel : Datamodel) (config : Config) : m (Except Failure Plan) := do
  reportAll (planEvents datamodel config)
  let plan := plan datamodel config
  match ← plan.write with
  | .error failure => pure (.error failure)
  | .ok () =>
      Host.report (.generated plan.files.length plan.root plan.diagnostics.length)
      pure (.ok plan)

end PrismaZod
