import PrismaZod.Json.Basic

/-!
# Tokens of JSON text

The scanner goes over the characters once and keeps, besides the tokens found,
only what it has read of the token it is in.  Numbers and words end before the
first character that cannot belong to them.  An escaped code unit is kept as
it is: whether it has its other half is a question for who wants the text.
-/

namespace PrismaZod.Json

/-- A piece of a quoted text: a character, or a code unit of sixteen bits
written as an escape. -/
inductive Piece
  | char (c : Char)
  | unit (code : Nat)
deriving DecidableEq, Repr, Inhabited

inductive Token
  | openArray
  | closeArray
  | openObject
  | closeObject
  | colon
  | comma
  | null
  | boolean (value : Bool)
  | number (literal : NumberLiteral)
  | text (pieces : List Piece)
deriving DecidableEq, Repr, Inhabited

/-- What the scanner is in the middle of; what it has read is newest first. -/
inductive Scanning
  | nothing
  | word (letters : List Char)
  | number (chars : List Char)
  | text (pieces : List Piece)
  | escape (pieces : List Piece)
  | unit (pieces : List Piece) (code digits : Nat)
deriving DecidableEq, Repr, Inhabited

/-- The tokens found, newest first, and what is being read. -/
structure Scan where
  tokens : List Token
  scanning : Scanning
deriving DecidableEq, Repr, Inhabited

namespace Scan

/-- Blanks between tokens are the four that JSON names. -/
def isBlank (c : Char) : Bool :=
  c == ' ' || c == '\t' || c == '\n' || c == '\r'

def isNumberChar (c : Char) : Bool :=
  c.isDigit || c == '-' || c == '+' || c == '.' || c == 'e' || c == 'E'

def wordToken? (letters : List Char) : Option Token :=
  if letters = ['n', 'u', 'l', 'l'] then some .null
  else if letters = ['t', 'r', 'u', 'e'] then some (.boolean true)
  else if letters = ['f', 'a', 'l', 's', 'e'] then some (.boolean false)
  else none

def punctuation? (c : Char) : Option Token :=
  if c = '[' then some .openArray
  else if c = ']' then some .closeArray
  else if c = '{' then some .openObject
  else if c = '}' then some .closeObject
  else if c = ':' then some .colon
  else if c = ',' then some .comma
  else none

def start (tokens : List Token) (c : Char) : Option Scan :=
  if isBlank c then some ⟨tokens, .nothing⟩
  else if c = '"' then some ⟨tokens, .text []⟩
  else if c = '-' ∨ c.isDigit then some ⟨tokens, .number [c]⟩
  else if c.isLower then some ⟨tokens, .word [c]⟩
  else (punctuation? c).map fun token => ⟨token :: tokens, .nothing⟩

def escaped? (c : Char) : Option Char :=
  if c = '"' ∨ c = '\\' ∨ c = '/' then some c
  else if c = 'b' then some '\x08'
  else if c = 'f' then some '\x0c'
  else if c = 'n' then some '\n'
  else if c = 'r' then some '\r'
  else if c = 't' then some '\t'
  else none

def closeToken? : Scanning → Option Token
  | .word letters => wordToken? letters.reverse
  | .number chars => (NumberLiteral.ofChars? chars.reverse).map .number
  | _ => none

def step (scan : Scan) (c : Char) : Option Scan :=
  match scan.scanning with
  | .nothing => start scan.tokens c
  | .word letters =>
      if c.isLower then some ⟨scan.tokens, .word (c :: letters)⟩
      else (closeToken? scan.scanning).bind fun token => start (token :: scan.tokens) c
  | .number chars =>
      if isNumberChar c then some ⟨scan.tokens, .number (c :: chars)⟩
      else (closeToken? scan.scanning).bind fun token => start (token :: scan.tokens) c
  | .text pieces =>
      if c = '"' then some ⟨.text pieces.reverse :: scan.tokens, .nothing⟩
      else if c = '\\' then some ⟨scan.tokens, .escape pieces⟩
      else if c.toNat < 0x20 then none
      else some ⟨scan.tokens, .text (.char c :: pieces)⟩
  | .escape pieces =>
      if c = 'u' then some ⟨scan.tokens, .unit pieces 0 0⟩
      else (escaped? c).map fun meant => ⟨scan.tokens, .text (.char meant :: pieces)⟩
  | .unit pieces code digits =>
      (Text.hexValue? c).map fun digit =>
        if digits = 3 then ⟨scan.tokens, .text (.unit (code * 16 + digit) :: pieces)⟩
        else ⟨scan.tokens, .unit pieces (code * 16 + digit) (digits + 1)⟩

/-- The tokens, once there are no more characters. -/
def finish (scan : Scan) : Option (List Token) :=
  match scan.scanning with
  | .nothing => some scan.tokens.reverse
  | .word _ | .number _ =>
      (closeToken? scan.scanning).map fun token => (token :: scan.tokens).reverse
  | _ => none

end Scan

/-- The tokens of a text, if it consists of tokens and blanks. -/
def tokens? (chars : List Char) : Option (List Token) :=
  (chars.foldlM Scan.step ⟨[], .nothing⟩).bind Scan.finish

end PrismaZod.Json
