import PrismaZod.Text.Digit
import PrismaZod.Toml.StringForm

/-!
# Reading TOML strings

The characters of a string are taken one by one until its quotes close it.
Between three quotes one or two may stand in the text, also at its end, so a
run of quotes is counted before it is known what it is.
-/

namespace PrismaZod.Toml

def isLineBlank (c : Char) : Bool :=
  c == ' ' || c == '\t'

/-- The character may stand as it is in a string or a comment. -/
def isPlain (c : Char) : Bool :=
  c == '\t' || (decide (0x20 ≤ c.toNat) && c.toNat != 0x7F)

/-- Where in a string the reader is. -/
inductive StringState
  /-- In the text, after so many quotes in a row. -/
  | text (quotes : Nat)
  /-- After a backslash. -/
  | escape
  /-- In an escaped code point, with so many digits to come. -/
  | code (left value : Nat)
  /-- In the blanks after a backslash at the end of a line, before or after
  that end. -/
  | lineEnd (passed : Bool)
deriving DecidableEq, Repr, Inhabited

namespace StringState

def escaped? (c : Char) : Option Char :=
  if c = '"' ∨ c = '\\' then some c
  else if c = 'b' then some '\x08'
  else if c = 't' then some '\t'
  else if c = 'n' then some '\n'
  else if c = 'f' then some '\x0c'
  else if c = 'r' then some '\r'
  else none

def character? (code : Nat) : Option Char :=
  if code.isValidChar then some (Char.ofNat code) else none

/-- Take a character of the text, after so many quotes in a row. The result
begins with what is known by now to belong to the text. -/
def stepText (form : StringForm) (quotes : Nat) (c : Char) :
    Option (List Char × StringState) :=
  if c = form.mark then some ([], text (quotes + 1))
  else
    let before := List.replicate quotes form.mark
    if c = '\\' ∧ form.hasEscapes then some (before, escape)
    else if isPlain c || (c == '\n' && form.isMultiline) then some (before ++ [c], text 0)
    else none

def stepEscape (form : StringForm) (c : Char) : Option (List Char × StringState) :=
  if c = 'u' then some ([], code 4 0)
  else if c = 'U' then some ([], code 8 0)
  else if form.isMultiline && c == '\n' then some ([], lineEnd true)
  else if form.isMultiline && isLineBlank c then some ([], lineEnd false)
  else (escaped? c).map fun meant => ([meant], text 0)

def step (form : StringForm) (state : StringState) (c : Char) :
    Option (List Char × StringState) :=
  match state with
  | text quotes => stepText form quotes c
  | escape => stepEscape form c
  | code left value => do
      let digit ← Text.hexValue? c
      if left = 1 then
        let meant ← character? (value * 16 + digit)
        some ([meant], text 0)
      else some ([], code (left - 1) (value * 16 + digit))
  | lineEnd passed =>
      if c = '\n' then some ([], lineEnd true)
      else if isLineBlank c then some ([], lineEnd passed)
      else if passed then stepText form 0 c
      else none

/-- The string is closed before the next character; the number says how many of
the quotes just read belong to the text. -/
def closed? (form : StringForm) (state : StringState) (next : Option Char) : Option Nat :=
  match state with
  | text quotes =>
      if form.isMultiline then
        if quotes = 5 ∨ (3 ≤ quotes ∧ next ≠ some form.mark) then some (quotes - 3) else none
      else if quotes = 1 then some 0
      else none
  | _ => none

end StringState

/-- Take the rest of a string and the quotes that close it. -/
def takeQuoted (form : StringForm) (state : StringState) (chars : List Char) :
    Option (List Char × List Char) :=
  match StringState.closed? form state chars.head? with
  | some quotes => some (List.replicate quotes form.mark, chars)
  | none =>
      match chars with
      | [] => none
      | c :: rest => do
          let (content, next) ← StringState.step form state c
          let (text, after) ← takeQuoted form next rest
          some (content ++ text, after)

/-- Take a string on one line that starts with a quote. -/
def takeLineString (chars : List Char) : Option (String × List Char) :=
  match chars with
  | '"' :: rest => (takeQuoted .basic (.text 0) rest).map fun found => (.ofList found.1, found.2)
  | '\'' :: rest => (takeQuoted .literal (.text 0) rest).map fun found => (.ofList found.1, found.2)
  | _ => none

/-- Text without the line feed that may follow three opening quotes. -/
def dropLineFeed : List Char → List Char
  | '\n' :: rest => rest
  | chars => chars

/-- Take a string that starts with one or three quotes. -/
def takeString (chars : List Char) : Option (String × List Char) :=
  let opened (form : StringForm) :=
    (takeQuoted form (.text 0) (dropLineFeed (chars.drop 3))).map fun found =>
      (String.ofList found.1, found.2)
  if StringForm.multilineBasic.quotes.isPrefixOf chars then opened .multilineBasic
  else if StringForm.multilineLiteral.quotes.isPrefixOf chars then opened .multilineLiteral
  else takeLineString chars

end PrismaZod.Toml
