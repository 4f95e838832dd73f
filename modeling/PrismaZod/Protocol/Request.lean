import PrismaZod.Json.Fault
import PrismaZod.Json.Tree

/-!
# Requests

A request is a line of JSON: an object with a method, and possibly parameters
and an id, or an array of these three in order.  It is read in the order of the
text.  What stands under other keys is not looked into, and so is not held to
the limits that JSON values are held to.
-/

namespace PrismaZod

open Json

/-- A request of the host. -/
structure Request where
  method : String
  parameters : Json
  id : Json
deriving Repr, Inhabited

/-- Why a line is no request. -/
inductive RequestFault
  | notJson
  | invalid (fault : Fault)
deriving DecidableEq, Repr, Inhabited

def RequestFault.message : RequestFault → String
  | notJson => "not JSON"
  | invalid fault => fault.message

namespace Request

def found? : Tree → Option Found
  | .null => some .null
  | .boolean value => some (.boolean value)
  | .number literal => literal.value?.map .number
  | .text pieces => (string? pieces).map .string
  | .array _ => some .sequence
  | .object _ => some .map

/-- Why a part of a line cannot be read: it is at fault, or not JSON at all. -/
abbrev Reading (α : Type) := Except (Option Fault) α

/-- A part of a line that has to be JSON. -/
def demand {α : Type} (part : Option α) : Reading α :=
  match part with
  | some value => .ok value
  | none => .error none

def wrongType {α : Type} (tree : Tree) (expected : Shape) : Reading α :=
  match found? tree with
  | some found => .error (some (.invalidType found expected))
  | none => .error none

def readMethod : Tree → Reading String
  | .text pieces => demand (string? pieces)
  | other => wrongType other .string

/-- A value inside a request, which takes one level of the nesting limit. -/
def readValue (tree : Tree) : Reading Json :=
  demand (tree.value? (nestingLimit - 1))

/-- The fields of a request that have been read. -/
structure Fields where
  method : Option String
  parameters : Option Json
  id : Option Json
deriving Inhabited

/-- A field is given once only. -/
def readOnce {α : Type} (key : String) (held : Option α) (read : Reading α) :
    Reading (Option α) :=
  match held with
  | some _ => .error (some (.duplicateField key))
  | none => read.map some

def readMember (fields : Fields) (member : List Piece × Tree) : Reading Fields :=
  match string? member.1 with
  | none => .error none
  | some "method" =>
      (readOnce "method" fields.method (readMethod member.2)).map
        fun value => { fields with method := value }
  | some "params" =>
      (readOnce "params" fields.parameters (readValue member.2)).map
        fun value => { fields with parameters := value }
  | some "id" =>
      (readOnce "id" fields.id (readValue member.2)).map
        fun value => { fields with id := value }
  | some _ => .ok fields

/-- Parameters and ids are null when they are absent. -/
def ofFields (fields : Fields) : Reading Request :=
  match fields.method with
  | none => .error (some (.missingField "method"))
  | some method => .ok ⟨method, fields.parameters.getD .null, fields.id.getD .null⟩

/-- Read the items of a request written as an array. -/
def ofItems (items : List Tree) : Reading Request :=
  match items with
  | [] => .error (some (.tooShort 0 "Request" 3))
  | method :: rest => do
      let method ← readMethod method
      let values ← (rest.take 2).mapM readValue
      if rest.length ≤ 2 then
        pure ⟨method, values.headD .null, values.tail.headD .null⟩
      else throw (some .trailing)

def ofTree : Tree → Reading Request
  | .object members => do
      let fields ← members.foldlM readMember ⟨none, none, none⟩
      ofFields fields
  | .array items => ofItems items
  | other => wrongType other (.record "Request")

/-- The request on a line. A line that is no JSON within the limits is never
at fault for what it holds. -/
def ofLine (line : String) : Except RequestFault Request :=
  match Tree.ofText? line with
  | none => .error .notJson
  | some tree =>
      match ofTree tree with
      | .ok request => .ok request
      | .error none => .error .notJson
      | .error (some fault) =>
          if (tree.value? nestingLimit).isSome then .error (.invalid fault)
          else .error .notJson

end Request

end PrismaZod
