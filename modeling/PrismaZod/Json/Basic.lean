import PrismaZod.Json.Number
import PrismaZod.Table

/-!
# JSON values

The members of an object form a table: sorted by key, each key once.
-/

namespace PrismaZod

/-- A JSON value. -/
inductive Json
  | null
  | boolean (value : Bool)
  | number (value : Number)
  | string (value : String)
  | array (items : List Json)
  | object (members : List (String × Json))
deriving Repr, Inhabited

namespace Json

def isObject : Json → Bool
  | object _ => true
  | _ => false

end Json

end PrismaZod
