import PrismaZod.Json.Token

/-!
# The structure of JSON text

A text is first read for its structure alone, with its numbers still spelled
out and its strings still in pieces.  The value of a tree is worked out in a
second step, and this alone can find fault with how deep the tree is, how large
its numbers are and whether its code units pair up.  Parts of a text that
nobody asks for are held to the first step only.
-/

namespace PrismaZod.Json

/-- A JSON text read for its structure. -/
inductive Tree
  | null
  | boolean (value : Bool)
  | number (literal : NumberLiteral)
  | text (pieces : List Piece)
  | array (items : List Tree)
  | object (members : List (List Piece × Tree))
deriving Repr, Inhabited

/-- An array or object that is still open and waits for a value; what it holds
already is newest first. -/
inductive Frame
  | array (items : List Tree)
  | object (members : List (List Piece × Tree)) (key : List Piece)
deriving Repr, Inhabited

/-- What has to come next. -/
inductive Expected
  /-- A value; or, right after an array was opened, its end. -/
  | value (orClose : Bool)
  /-- A key of the object with these members; or, right after it was opened,
  its end. -/
  | key (members : List (List Piece × Tree)) (orClose : Bool)
  | colon (members : List (List Piece × Tree)) (key : List Piece)
  /-- What may follow a complete value. -/
  | after (value : Tree)
deriving Repr, Inhabited

/-- The open arrays and objects, innermost first, and what comes next. -/
structure Reading where
  frames : List Frame
  expected : Expected
deriving Repr, Inhabited

namespace Reading

/-- Nothing is read yet. -/
def initial : Reading := ⟨[], .value false⟩

def scalar? : Token → Option Tree
  | .null => some .null
  | .boolean value => some (.boolean value)
  | .number literal => some (.number literal)
  | .text pieces => some (.text pieces)
  | _ => none

def takeValue (frames : List Frame) (orClose : Bool) (token : Token) : Option Reading :=
  match token, frames, orClose with
  | .openArray, _, _ => some ⟨.array [] :: frames, .value true⟩
  | .openObject, _, _ => some ⟨frames, .key [] true⟩
  | .closeArray, .array [] :: outer, true => some ⟨outer, .after (.array [])⟩
  | _, _, _ => (scalar? token).map fun value => ⟨frames, .after value⟩

def takeAfter (frames : List Frame) (value : Tree) (token : Token) : Option Reading :=
  match frames, token with
  | .array items :: outer, .comma => some ⟨.array (value :: items) :: outer, .value false⟩
  | .array items :: outer, .closeArray =>
      some ⟨outer, .after (.array (value :: items).reverse)⟩
  | .object members key :: outer, .comma => some ⟨outer, .key ((key, value) :: members) false⟩
  | .object members key :: outer, .closeObject =>
      some ⟨outer, .after (.object ((key, value) :: members).reverse)⟩
  | _, _ => none

def step (reading : Reading) (token : Token) : Option Reading :=
  match reading.expected with
  | .value orClose => takeValue reading.frames orClose token
  | .key members orClose =>
      match token with
      | .text key => some ⟨reading.frames, .colon members key⟩
      | .closeObject =>
          if orClose then some ⟨reading.frames, .after (.object members.reverse)⟩ else none
      | _ => none
  | .colon members key =>
      if token = .colon then some ⟨.object members key :: reading.frames, .value false⟩
      else none
  | .after value => takeAfter reading.frames value token

/-- The tree, once there are no more tokens. -/
def finish (reading : Reading) : Option Tree :=
  match reading.frames, reading.expected with
  | [], .after value => some value
  | _, _ => none

end Reading

namespace Tree

/-- The tree of a list of tokens, if they make up one value. -/
def ofTokens? (tokens : List Token) : Option Tree :=
  (tokens.foldlM Reading.step .initial).bind Reading.finish

def ofText? (text : String) : Option Tree :=
  (tokens? text.toList).bind ofTokens?

end Tree

/-- The code unit is the first half of a pair. -/
def isHighHalf (code : Nat) : Bool :=
  decide (0xD800 ≤ code) && decide (code ≤ 0xDBFF)

/-- The code unit is the second half of a pair. -/
def isLowHalf (code : Nat) : Bool :=
  decide (0xDC00 ≤ code) && decide (code ≤ 0xDFFF)

/-- The characters that pieces make up, if each half of a pair has its other
half next to it. -/
def chars? : List Piece → Option (List Char)
  | [] => some []
  | .char c :: rest => (chars? rest).map (c :: ·)
  | .unit high :: .unit low :: rest =>
      if isHighHalf high then
        if isLowHalf low then
          (chars? rest).map
            (Char.ofNat (0x10000 + (high - 0xD800) * 0x400 + (low - 0xDC00)) :: ·)
        else none
      else if isLowHalf high then none
      else (chars? (.unit low :: rest)).map (Char.ofNat high :: ·)
  | .unit code :: rest =>
      if isHighHalf code || isLowHalf code then none
      else (chars? rest).map (Char.ofNat code :: ·)

def string? (pieces : List Piece) : Option String :=
  (chars? pieces).map String.ofList

/-- The value of a tree whose arrays and objects are nested no deeper than a
limit, if its numbers are finite and its strings are made of characters. -/
def Tree.value? : Nat → Tree → Option Json
  | _, .null => some .null
  | _, .boolean value => some (.boolean value)
  | _, .number literal => literal.value?.map .number
  | _, .text pieces => (string? pieces).map .string
  | 0, .array _ => none
  | 0, .object _ => none
  | limit + 1, .array items => (items.mapM (Tree.value? limit)).map .array
  | limit + 1, .object members => do
      let entries ← members.mapM fun member => do
        let key ← string? member.1
        let value ← Tree.value? limit member.2
        pure (key, value)
      pure (.object (Table.ofList entries))

/-- How deep arrays and objects may be nested in a text. -/
def nestingLimit : Nat := 127

/-- The value of a text, if it is JSON within the limits. -/
def read? (text : String) : Option Json :=
  (Tree.ofText? text).bind (Tree.value? nestingLimit)

end PrismaZod.Json
