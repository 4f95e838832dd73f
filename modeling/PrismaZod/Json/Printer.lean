import PrismaZod.Json.Basic

/-!
# Compact JSON text

Values are written without blanks.  Strings escape the quote, the backslash and
the controls, nothing else.
-/

namespace PrismaZod.Json

def stringChar (c : Char) : List Char :=
  if c = '"' then ['\\', '"']
  else if c = '\\' then ['\\', '\\']
  else if c = '\x08' then ['\\', 'b']
  else if c = '\t' then ['\\', 't']
  else if c = '\n' then ['\\', 'n']
  else if c = '\x0c' then ['\\', 'f']
  else if c = '\r' then ['\\', 'r']
  else if c.toNat < 0x20 then
    ['\\', 'u', '0', '0', Nat.digitChar (c.toNat / 16), Nat.digitChar (c.toNat % 16)]
  else [c]

def stringText (value : String) : String :=
  String.ofList ('"' :: (value.toList.flatMap stringChar ++ ['"']))

def memberText (key value : String) : String :=
  stringText key ++ ":" ++ value

def objectText (members : List String) : String :=
  "\x7b" ++ ",".intercalate members ++ "\x7d"

mutual

def text : Json → String
  | null => "null"
  | boolean true => "true"
  | boolean false => "false"
  | number value => value.text
  | string value => stringText value
  | array items => "[" ++ ",".intercalate (itemTexts items) ++ "]"
  | object members => objectText (memberTexts members)

/-- The text of each item. -/
def itemTexts : List Json → List String
  | [] => []
  | item :: rest => text item :: itemTexts rest

/-- The text of each member. -/
def memberTexts : List (String × Json) → List String
  | [] => []
  | (key, value) :: rest => memberText key (text value) :: memberTexts rest

end

end PrismaZod.Json
