import PrismaZod.Text.Blank

/-!
# Assignments

An option is set by a key, an equals sign and a value.  Blanks around the key
and around the value are no part of them, and the value may hold further equals
signs.
-/

namespace PrismaZod

/-- Why a text assigns nothing. -/
inductive AssignmentFault
  /-- There is no equals sign. -/
  | noEquals (text : String)
  /-- There are only blanks before the first equals sign. -/
  | noKey (text : String)
deriving DecidableEq, Repr, Inhabited

def AssignmentFault.message : AssignmentFault → String
  | noEquals text => "expected key=value, got `" ++ text ++ "`"
  | noKey text => "missing key in `" ++ text ++ "`"

/-- What stands before and after the first mark. -/
def splitOnce (mark : Char) : List Char → Option (List Char × List Char)
  | [] => none
  | head :: rest =>
      if head = mark then some ([], rest)
      else (splitOnce mark rest).map fun parts => (head :: parts.1, parts.2)

/-- The key and the value that a text assigns to it. -/
def parseAssignment (text : String) : Except AssignmentFault (String × String) :=
  match splitOnce '=' text.toList with
  | none => .error (.noEquals text)
  | some (before, after) =>
      match Text.trimChars before with
      | [] => .error (.noKey text)
      | key => .ok (String.ofList key, String.ofList (Text.trimChars after))

end PrismaZod
