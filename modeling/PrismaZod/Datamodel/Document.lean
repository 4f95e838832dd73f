import PrismaZod.Datamodel.Decode
import PrismaZod.Json.Tree

/-!
# Documents that hold a datamodel

A document is an object: the options of a generator, with the datamodel in the
`datamodel` of their `dmmf`; or an object with a `datamodel`; or the datamodel
itself.  An outer key that is there is never passed over for an inner one.
-/

namespace PrismaZod

/-- The parts of a document that have to be objects. -/
inductive DocumentPart
  | document
  | dmmf
  | datamodel
deriving DecidableEq, Repr, Inhabited

def DocumentPart.name : DocumentPart → String
  | document => "document"
  | dmmf => "dmmf"
  | datamodel => "datamodel"

/-- Why a document holds no datamodel. -/
inductive DocumentFault
  /-- The text is not JSON. -/
  | notJson
  | notAnObject (part : DocumentPart)
  | invalid (fault : Json.Fault)
deriving DecidableEq, Repr, Inhabited

def DocumentFault.message : DocumentFault → String
  | notJson => "invalid DMMF JSON: not JSON"
  | notAnObject part => "`" ++ part.name ++ "` must be an object"
  | invalid fault => "invalid DMMF JSON: " ++ fault.message

namespace Datamodel

/-- The value that stands for the datamodel in a document. -/
def select (document : Json) : Except DocumentFault Json :=
  match document with
  | .object members =>
      match Table.find? "dmmf" members with
      | some (.object inner) => .ok ((Table.find? "datamodel" inner).getD .null)
      | some _ => .error (.notAnObject .dmmf)
      | none => .ok ((Table.find? "datamodel" members).getD document)
  | _ => .error (.notAnObject .document)

def ofDocument (document : Json) : Except DocumentFault Datamodel :=
  match select document with
  | .error fault => .error fault
  | .ok (.object members) => (decode (.object members)).mapError .invalid
  | .ok _ => .error (.notAnObject .datamodel)

def ofText (text : String) : Except DocumentFault Datamodel :=
  match Json.read? text with
  | none => .error .notJson
  | some document => ofDocument document

end Datamodel

end PrismaZod
