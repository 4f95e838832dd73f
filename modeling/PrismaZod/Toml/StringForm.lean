/-!
# Forms of TOML strings

A string stands between single or double quotes, one on each side or three.
Three allow it to go over several lines, and double ones allow escapes.
-/

namespace PrismaZod.Toml

/-- How a string is written. -/
inductive StringForm
  | basic
  | literal
  | multilineBasic
  | multilineLiteral
deriving DecidableEq, Repr, Inhabited

namespace StringForm

def mark : StringForm → Char
  | basic | multilineBasic => '"'
  | literal | multilineLiteral => '\''

def isMultiline : StringForm → Bool
  | multilineBasic | multilineLiteral => true
  | basic | literal => false

def hasEscapes : StringForm → Bool
  | basic | multilineBasic => true
  | literal | multilineLiteral => false

def quotes (form : StringForm) : List Char :=
  List.replicate (if form.isMultiline then 3 else 1) form.mark

end StringForm

/-- The character may be part of a key without quotes. -/
def isBareKeyChar (c : Char) : Bool :=
  c.isAlphanum || c == '_' || c == '-'

end PrismaZod.Toml
