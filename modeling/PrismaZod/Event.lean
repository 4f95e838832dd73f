import PrismaZod.Plan

/-!
# Events

What a run reports while it goes on, as opposed to what it answers.
-/

namespace PrismaZod

inductive Level
  | debug
  | info
  | warn
  | error
deriving DecidableEq, Repr, Inhabited

def Level.name : Level → String
  | debug => "DEBUG"
  | info => "INFO"
  | warn => "WARN"
  | error => "ERROR"

inductive Event
  /-- Schemas of inputs were asked for. -/
  | inputTypesIgnored
  | leftOut (diagnostic : Diagnostic)
  /-- A model refers to an enumeration that is not declared. -/
  | undeclared (model enumeration : String)
  | wrote (path : Path)
  | generated (files : Nat) (root : Path) (diagnostics : Nat)
  | request (method : String)
  | failed (message : String)
deriving DecidableEq, Repr, Inhabited

namespace Event

def level : Event → Level
  | inputTypesIgnored | undeclared _ _ => .warn
  | leftOut _ | wrote _ | request _ => .debug
  | generated _ _ _ => .info
  | failed _ => .error

def message : Event → String
  | inputTypesIgnored =>
      "createInputTypes has no effect, input schemas are not generated"
  | leftOut diagnostic => diagnostic.message
  | undeclared model enumeration =>
      model ++ ": enum " ++ enumeration ++ " is not declared in the datamodel"
  | wrote path => "wrote " ++ path.text
  | generated files root diagnostics =>
      "generated " ++ files.repr ++ " file(s) in " ++ root.text ++ " (" ++
        diagnostics.repr ++ " field(s) or default(s) left out)"
  | request method => method ++ " request"
  | failed message => message

def line (event : Event) : String :=
  event.level.name ++ " " ++ event.message

end Event

namespace Model

/-- What is reported while the declaration of a model is made. -/
def declarationEvents (model : Model) (coerceDate : Bool) : List Event :=
  (model.diagnostics coerceDate).map .leftOut

/-- What is reported while the file of a model is planned. -/
def fileEvents (model : Model) (datamodel : Datamodel) (coerceDate : Bool) : List Event :=
  let unknown := (model.declaration coerceDate).references.filter fun name =>
    !datamodel.declaresEnumeration name
  model.declarationEvents coerceDate ++ unknown.map (.undeclared model.name)

end Model

def planEvents (datamodel : Datamodel) (config : Config) : List Event :=
  (if config.createInputTypes then [Event.inputTypesIgnored] else []) ++
    datamodel.models.flatMap fun model =>
      if config.multipleFiles then model.fileEvents datamodel config.coerceDate
      else model.declarationEvents config.coerceDate

end PrismaZod
