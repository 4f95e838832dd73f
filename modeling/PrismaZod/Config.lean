import PrismaZod.Path
import PrismaZod.Json.Record

/-!
# Configuration

Raw options are texts, or lists of texts, under their keys.  A configuration is
what the options with known keys come to; a list counts as if it were not there.
-/

namespace PrismaZod

/-- The value of a raw option. -/
inductive OptionValue
  | single (text : String)
  | list (texts : List String)
deriving DecidableEq, Repr, Inhabited

namespace OptionValue

/-- The text of an option that is no list. -/
def text? : OptionValue → Option String
  | single text => some text
  | list _ => none

/-- A value is a string or a list of strings. -/
def decode : Json.Decoder OptionValue
  | .string text => .ok (single text)
  | .array items =>
      match Json.asList Json.asString (.array items) with
      | .ok texts => .ok (list texts)
      | .error _ => .error .notOptionValue
  | _ => .error .notOptionValue

end OptionValue

/-- Options under their keys. -/
abbrev RawConfig := Table OptionValue

namespace RawConfig

/-- The text under a key, if there is one and it is no list. -/
def text? (raw : RawConfig) (key : String) : Option String :=
  (raw.find? key).bind OptionValue.text?

def decode : Json.Decoder RawConfig
  | .object members => members.mapM fun member => do
      let value ← OptionValue.decode member.2
      pure (member.1, value)
  | other => .error (.invalidType other.found .map)

/-- Enter texts in order, so that the last one under a key stays. -/
def override (raw : RawConfig) (pairs : List (String × String)) : RawConfig :=
  pairs.foldl (fun raw pair => raw.insert pair.1 (.single pair.2)) raw

end RawConfig

/-- What the generator is told to do. -/
structure Config where
  /-- The directory that files are generated in. -/
  output : Path
  /-- One file for each entity and an index, in the stead of one file for all. -/
  multipleFiles : Bool
  /-- Dates are also made from what is no date. -/
  coerceDate : Bool
  /-- Schemas of inputs are asked for; they are never generated. -/
  createInputTypes : Bool
deriving DecidableEq, Repr, Inhabited

namespace Config

/-- The directory that files are generated in unless another one is given. -/
def defaultOutput : String := "./generated/zod"

/-- The configuration of raw options. An output directory that is given apart
from the options wins over theirs. -/
def ofRaw (raw : RawConfig) (output : Option String) : Config where
  output := ⟨(output.or (raw.text? "output")).getD defaultOutput⟩
  multipleFiles := raw.text? "multipleFiles" == some "true"
  coerceDate := raw.text? "coerceDate" != some "false"
  createInputTypes := raw.text? "createInputTypes" == some "true"

end Config

end PrismaZod
