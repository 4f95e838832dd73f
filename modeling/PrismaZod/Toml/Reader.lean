import PrismaZod.Toml.Draft
import PrismaZod.Toml.Quotation
import PrismaZod.Toml.Word

/-!
# Reading TOML documents

A document is a list of entries and headers, each on a line of its own, though
strings and arrays may go over several lines.  A header says in which table the
entries after it belong.  Arrays and tables inside values are nested only so
deep, and keys have only so many parts.
-/

namespace PrismaZod.Toml

/-- Take something from the front of a text. -/
abbrev Take (α : Type) := List Char → Option (α × List Char)

/-- Lines that all end with a line feed. A carriage return may only stand
before a line feed, and goes. -/
def unifyLines : List Char → Option (List Char)
  | [] => some []
  | ['\r'] => none
  | '\r' :: next :: rest => if next = '\n' then unifyLines (next :: rest) else none
  | head :: rest => (unifyLines rest).map (head :: ·)

def dropBlanks (chars : List Char) : List Char :=
  chars.dropWhile isLineBlank

def dropComment (chars : List Char) : List Char :=
  if chars.head? = some '#' then chars.dropWhile isPlain else chars

/-- Take the end of a line, with blanks and a comment before it. -/
def takeLineEnd (chars : List Char) : Option (List Char) :=
  match dropComment (dropBlanks chars) with
  | [] => some []
  | '\n' :: rest => some rest
  | _ => none

def dropLines (inComment : Bool) : List Char → Option (List Char)
  | [] => some []
  | head :: rest =>
      if inComment then
        if head = '\n' then dropLines false rest
        else if isPlain head then dropLines true rest
        else none
      else if head = '\n' ∨ isLineBlank head then dropLines false rest
      else if head = '#' then dropLines true rest
      else some (head :: rest)

/-- Take a key without dots. -/
def takeSimpleKey : Take String := fun chars =>
  match chars.takeWhile isBareKeyChar with
  | [] => takeLineString chars
  | bare => some (.ofList bare, chars.dropWhile isBareKeyChar)

/-- Take a dotted key of limited length: the parts before the last, and the
last. -/
def takeKey : Nat → Take (List String × String)
  | 0, _ => none
  | limit + 1, chars => do
      let (part, afterPart) ← takeSimpleKey (dropBlanks chars)
      match dropBlanks afterPart with
      | '.' :: rest =>
          let ((path, last), after) ← takeKey limit rest
          some ((part :: path, last), after)
      | after => some (([], part), after)

/-- The number of parts a key may have, and how deep values may be nested. -/
def nestingLimit : Nat := 79

def takeEntry (element : Take Toml) : Take ((List String × String) × Toml) := fun chars => do
  let (key, afterKey) ← takeKey nestingLimit chars
  match afterKey with
  | '=' :: rest =>
      let (value, after) ← element (dropBlanks rest)
      some ((key, value), after)
  | _ => none

/-- Take the items of an array and its end. The fuel bounds their number. -/
def takeItems (element : Take Toml) : Nat → Take (List Toml)
  | 0, _ => none
  | fuel + 1, chars => do
      match ← dropLines false chars with
      | ']' :: rest => some ([], rest)
      | start =>
          let (item, afterItem) ← element start
          match ← dropLines false afterItem with
          | ']' :: rest => some ([item], rest)
          | ',' :: rest =>
              let (items, after) ← takeItems element fuel rest
              some (item :: items, after)
          | _ => none

/-- Take the entries of an inline table and its end. The fuel bounds their
number. -/
def takeMembers (element : Take Toml) : Nat → Members → Take Members
  | 0, _, _ => none
  | fuel + 1, members, chars => do
      let (((path, key), value), afterEntry) ← takeEntry element chars
      let entered ← members.enter path key value
      match dropBlanks afterEntry with
      | '}' :: rest => some (entered, rest)
      | ',' :: rest => takeMembers element fuel entered rest
      | _ => none

def takeInlineTable (element : Take Toml) : Take Toml := fun chars =>
  match dropBlanks chars with
  | '}' :: rest => some (.table [], rest)
  | start => do
      let (members, rest) ← takeMembers element start.length [] start
      let table ← (Members.values? members).bind ofMembers?
      some (table, rest)

/-- Take a value that is no array and no table. -/
def takeScalar : Take Toml := fun chars =>
  match chars with
  | '"' :: _ | '\'' :: _ => (takeString chars).map fun found => (.string found.1, found.2)
  | _ => takeWord chars

/-- Take a value whose arrays and tables are nested no deeper than a limit. -/
def takeValue : Nat → Take Toml
  | 0 => takeScalar
  | limit + 1 => fun chars =>
      match chars with
      | '[' :: rest =>
          (takeItems (takeValue limit) rest.length rest).map fun found =>
            (.array found.1, found.2)
      | '{' :: rest => takeInlineTable (takeValue limit) rest
      | _ => takeScalar chars

/-- A document read so far: its members, and the path of the table that entries
belong to. -/
structure Document where
  members : Members
  current : List String
deriving Repr, Inhabited

namespace Document

def enter (document : Document) (key : List String × String) (value : Toml) :
    Option Document :=
  (document.members.within false (fun _ inner => inner.enter key.1 key.2 value)
    document.current .header).map fun members => { document with members := members }

/-- Take the brackets that end a header, and its line. -/
def takeHeaderEnd (isItem : Bool) (chars : List Char) : Option (List Char) :=
  let closing := if isItem then [']', ']'] else [']']
  if closing.isPrefixOf chars then takeLineEnd (chars.drop closing.length) else none

def takeHeader (isItem : Bool) (document : Document) : Take Document := fun chars => do
  let ((path, key), afterKey) ← takeKey nestingLimit chars
  let rest ← takeHeaderEnd isItem afterKey
  let members ←
    if isItem then document.members.beginItem path key
    else document.members.beginTable path key
  some (⟨members, path ++ [key]⟩, rest)

def takeLine (document : Document) : Take Document := fun chars => do
  let ((key, value), afterValue) ← takeEntry (takeValue nestingLimit) chars
  let rest ← takeLineEnd afterValue
  let entered ← document.enter key value
  some (entered, rest)

def takeStatement (document : Document) : Take Document := fun chars =>
  match chars with
  | '[' :: '[' :: rest => document.takeHeader true rest
  | '[' :: rest => document.takeHeader false rest
  | _ => document.takeLine chars

/-- Read to the end. The fuel bounds the number of lines. -/
def readLines : Nat → Document → List Char → Option Document
  | 0, document, chars => if chars.isEmpty then some document else none
  | fuel + 1, document, chars => do
      match ← dropLines false chars with
      | [] => some document
      | start =>
          let (next, rest) ← document.takeStatement start
          readLines fuel next rest

end Document

/-- A document without the mark that tells the order of bytes. -/
def dropByteOrderMark : List Char → List Char
  | [] => []
  | head :: rest => if head.toNat = 0xFEFF then rest else head :: rest

/-- The table that a document describes, if it is TOML. -/
def read? (text : String) : Option (Table Toml) := do
  let chars ← unifyLines (dropByteOrderMark text.toList)
  let document ← Document.readLines chars.length ⟨[], []⟩ chars
  let members ← Members.values? document.members
  some (Table.ofList members)

end PrismaZod.Toml
