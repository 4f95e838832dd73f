import PrismaZod.Decimal.Layout
import PrismaZod.Table
import PrismaZod.Toml.DateTime

/-!
# TOML values

Unlike JSON, TOML tells whole numbers from doubles, has infinities and values
that are no numbers, and has dates and times.  The members of a table are
sorted by key.
-/

namespace PrismaZod

namespace Toml

/-- A double, finite or not. -/
inductive Double
  | finite (value : Binary64)
  | infinite (negative : Bool)
  | notANumber
deriving DecidableEq, Repr, Inhabited

end Toml

/-- A TOML value. -/
inductive Toml
  | string (value : String)
  | integer (value : Int)
  | double (value : Toml.Double)
  | boolean (value : Bool)
  | dateTime (value : Toml.DateTime)
  | array (items : List Toml)
  | table (members : List (String × Toml))
deriving Repr, Inhabited

namespace Toml

/-- The key under which a date-time is handed on as a table. -/
def dateTimeKey : String := "$__toml_private_datetime"

/-- The table of members in the order they were written. If it starts with the
key of date-times, it has to be what a date-time is handed on as. -/
def ofMembers? (members : List (String × Toml)) : Option Toml :=
  match members with
  | (key, value) :: _ =>
      if key = dateTimeKey then
        match value with
        | .string text => (DateTime.ofChars? .handedOn text.toList).map dateTime
        | _ => none
      else some (table (Table.ofList members))
  | [] => some (table [])

end Toml

end PrismaZod
