import PrismaZod.Toml.Basic
import PrismaZod.Toml.StringForm

/-!
# Texts of TOML values

A string is written in the plainest of five forms that can hold it: between
double quotes as it is, between single quotes, in either form of several lines,
and at last with escapes.  Arrays and tables are written on one line.  A
date-time that stands alone is written as the table it is handed on as.
-/

namespace PrismaZod.Toml

/-- What about a text decides between the forms. -/
structure Contents where
  /-- There is a control character other than tab and line feed. -/
  controls : Bool
  lineFeeds : Bool
  backslashes : Bool
  /-- The longest runs of quotes. -/
  singleQuotes : Nat
  doubleQuotes : Nat
deriving DecidableEq, Repr

/-- The length of the longest run of a character, after a run that is being
counted. -/
def longestRun (mark : Char) (running : Nat) : List Char → Nat
  | [] => running
  | head :: rest =>
      if head = mark then longestRun mark (running + 1) rest
      else max running (longestRun mark 0 rest)

/-- The character has to be escaped where escapes are used, and keeps a text
out of the forms without escapes. -/
def isControl (c : Char) : Bool :=
  (decide (c.toNat < 0x20) && c != '\t' && c != '\n') || c.toNat == 0x7F

def Contents.ofChars (chars : List Char) : Contents where
  controls := chars.any isControl
  lineFeeds := chars.contains '\n'
  backslashes := chars.contains '\\'
  singleQuotes := longestRun '\'' 0 chars
  doubleQuotes := longestRun '"' 0 chars

namespace StringForm

/-- The form that a text with these contents is written in. -/
def forContents (contents : Contents) : StringForm :=
  let plain := !contents.controls
  if plain && !contents.backslashes && contents.doubleQuotes == 0 && !contents.lineFeeds then
    basic
  else if plain && contents.singleQuotes == 0 && !contents.lineFeeds then literal
  else if plain && !contents.backslashes && decide (contents.doubleQuotes ≤ 2) then
    multilineBasic
  else if plain && decide (contents.singleQuotes ≤ 2) then multilineLiteral
  else if contents.lineFeeds then multilineBasic
  else basic

end StringForm

/-- Four hexadecimal digits, in upper case. -/
def hexQuad (code : Nat) : List Char :=
  let digits := (Nat.toDigits 16 code).map Char.toUpper
  List.replicate (4 - digits.length) '0' ++ digits

/-- A character between double quotes, after a run of double quotes. Between
three of them line feeds stay, and so does every double quote that is not the
third in a row. -/
def escapedChar (multiline : Bool) (quotesBefore : Nat) (c : Char) : List Char :=
  if c = '\n' then (if multiline then ['\n'] else ['\\', 'n'])
  else if c = '"' then
    if multiline && decide (quotesBefore < 2) then ['"'] else ['\\', '"']
  else if c = '\\' then ['\\', '\\']
  else if c = '\x08' then ['\\', 'b']
  else if c = '\t' then ['\\', 't']
  else if c = '\x0c' then ['\\', 'f']
  else if c = '\r' then ['\\', 'r']
  else if isControl c then '\\' :: 'u' :: hexQuad c.toNat
  else [c]

/-- A text between double quotes, after a run of double quotes that were
written as they are. -/
def escapedChars (multiline : Bool) (quotesBefore : Nat) : List Char → List Char
  | [] => []
  | head :: rest =>
      let quotes := if head = '"' ∧ quotesBefore < 2 then quotesBefore + 1 else 0
      escapedChar multiline quotesBefore head ++ escapedChars multiline quotes rest

def stringChars (chars : List Char) : List Char :=
  let contents := Contents.ofChars chars
  let form := StringForm.forContents contents
  let opening := if form.isMultiline && contents.lineFeeds then ['\n'] else []
  let body := match form with
    | .basic => escapedChars false 0 chars
    | .multilineBasic => escapedChars true 0 chars
    | .literal | .multilineLiteral => chars
  form.quotes ++ opening ++ body ++ form.quotes

/-- A key. One in quotes is always on one line. -/
def keyChars (chars : List Char) : List Char :=
  let contents := Contents.ofChars chars
  let plain := !contents.controls && !contents.lineFeeds
  if !chars.isEmpty && chars.all isBareKeyChar then chars
  else if plain && contents.singleQuotes == 0 &&
      (contents.backslashes || contents.doubleQuotes != 0) then
    '\'' :: chars ++ ['\'']
  else '"' :: escapedChars false 0 chars ++ ['"']

def Double.text : Double → String
  | finite value => FloatLayout.toml.text value
  | infinite negative => if negative then "-inf" else "inf"
  | notANumber => "nan"

def stringText (text : String) : String :=
  String.ofList (stringChars text.toList)

def keyText (key : String) : String :=
  String.ofList (keyChars key.toList)

def arrayText (items : List String) : String :=
  "[" ++ ", ".intercalate items ++ "]"

def memberText (member : String × String) : String :=
  keyText member.1 ++ " = " ++ member.2

def tableText (members : List (String × String)) : String :=
  if members.isEmpty then "\x7b\x7d"
  else "\x7b " ++ ", ".intercalate (members.map memberText) ++ " \x7d"

mutual

/-- The text of a value inside an array or a table. -/
def text : Toml → String
  | .string value => stringText value
  | .integer value => value.repr
  | .double value => value.text
  | .boolean value => if value then "true" else "false"
  | .dateTime value => value.text
  | .array items => arrayText (itemTexts items)
  | .table members => tableText (memberTexts members)

def itemTexts : List Toml → List String
  | [] => []
  | item :: rest => text item :: itemTexts rest

def memberTexts : List (String × Toml) → List (String × String)
  | [] => []
  | (key, value) :: rest => (key, text value) :: memberTexts rest

end

/-- The text of a value on its own. A string stands for itself, and a date-time
is handed on as a table. -/
def aloneText : Toml → String
  | .string value => value
  | .dateTime value => tableText [(dateTimeKey, stringText value.text)]
  | value => value.text

end PrismaZod.Toml
