import PrismaZod.Generate
import PrismaZod.Toml.Printer
import PrismaZod.Toml.Reader

/-!
# Configuration files

Options may be kept in a TOML file.  What is no string there is taken by its
text, so that a flag may be a boolean or a string; of an array the items are
taken in this way.
-/

namespace PrismaZod

def OptionValue.ofToml : Toml → OptionValue
  | .array items => .list (items.map Toml.aloneText)
  | value => .single value.aloneText

namespace RawConfig

def ofToml? (text : String) : Option RawConfig :=
  (Toml.read? text).map fun members =>
    members.map fun member => (member.1, OptionValue.ofToml member.2)

variable {m : Type → Type} [Monad m] [Host m]

def load (path : Path) : m (Except Failure RawConfig) := do
  match ← readText path with
  | .error fault => pure (.error (.read path fault))
  | .ok text =>
      match ofToml? text with
      | none => pure (.error (.config path))
      | some raw => pure (.ok raw)

end RawConfig

end PrismaZod
