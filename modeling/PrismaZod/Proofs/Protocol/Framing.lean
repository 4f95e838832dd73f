import PrismaZod.Proofs.Text.Pieces
import PrismaZod.Protocol.Serve

/-!
# Lines of an input

The characters of a text are encoded one after the other, and the bytes of a line
feed and of a carriage return stand in no other code.  So the lines of bytes that
are a text are texts, and an input that ends with a line feed keeps its lines
whatever comes after it.  How lines are ended says what the lines of an input are.
-/

namespace PrismaZod

open Text

namespace Text

variable {α β : Type} [DecidableEq α] [DecidableEq β]

theorem splitAt_append_of_not_mem {mark : β} {front : List β} (free : mark ∉ front)
    {rest piece : List β} {pieces : List (List β)} (split : splitAt mark rest = piece :: pieces) :
    splitAt mark (front ++ rest) = (front ++ piece) :: pieces := by
  induction front with
  | nil => exact split
  | cons head front ih =>
      simp only [List.mem_cons, not_or] at free
      rw [List.cons_append, splitAt, if_neg (Ne.symm free.1), ih free.2, List.cons_append]

/-- Where the code of a mark is in no other code, encoding and splitting can be
done in any order. -/
theorem splitAt_flatMap {mark : α} {code : β} {encode : α → List β} (ofMark : encode mark = [code])
    (apart : ∀ item, item ≠ mark → code ∉ encode item) (items : List α) :
    splitAt code (items.flatMap encode) = (splitAt mark items).map (·.flatMap encode) := by
  induction items with
  | nil => rfl
  | cons item items ih =>
      rw [List.flatMap_cons, splitAt]
      split
      · rename_i isMark
        rw [isMark, ofMark, List.singleton_append, splitAt, if_pos rfl, ih]
        rfl
      · rename_i notMark
        cases pieces : splitAt mark items with
        | nil => exact absurd pieces (splitAt_ne_nil mark items)
        | cons piece others =>
            rw [pieces, List.map_cons] at ih
            rw [splitAt_append_of_not_mem (apart item notMark) ih]
            rfl

end Text

/-- The codes of characters one after the other. -/
def encoded (chars : List Char) : List UInt8 :=
  chars.flatMap String.utf8EncodeChar

/-- A byte below `0x80` stands only in the code of its own character. -/
theorem toNat_of_mem_utf8EncodeChar {byte : UInt8} {c : Char} (ascii : byte.toNat < 0x80)
    (among : byte ∈ String.utf8EncodeChar c) : c.toNat = byte.toNat := by
  have isValue : c.toNat = c.val.toNat := rfl
  unfold String.utf8EncodeChar at among
  dsimp only at among
  split at among
  · rw [List.mem_singleton.mp among, isValue,
      UInt8.toNat_ofNat_of_lt' (by simp [UInt8.size]; omega)]
  · -- The bytes of longer codes start at `0x80`.
    have large (value : Nat) (least : 0x80 ≤ value % 256) : byte ≠ UInt8.ofNat value := by
      rintro rfl
      rw [UInt8.toNat_ofNat'] at ascii
      omega
    split at among
    · simp only [List.mem_cons, List.not_mem_nil, or_false] at among
      rcases among with same | same <;> exact absurd same (large _ (by omega))
    · split at among
      · simp only [List.mem_cons, List.not_mem_nil, or_false] at among
        rcases among with same | same | same <;> exact absurd same (large _ (by omega))
      · simp only [List.mem_cons, List.not_mem_nil, or_false] at among
        rcases among with same | same | same | same <;> exact absurd same (large _ (by omega))

theorem not_mem_utf8EncodeChar {byte : UInt8} {mark c : Char} (ascii : byte.toNat < 0x80)
    (isMark : mark.toNat = byte.toNat) (other : c ≠ mark) : byte ∉ String.utf8EncodeChar c := by
  intro among
  exact other (Char.toNat_inj.mp ((toNat_of_mem_utf8EncodeChar ascii among).trans isMark.symm))

theorem encoded_append (first second : List Char) :
    encoded (first ++ second) = encoded first ++ encoded second :=
  List.flatMap_append

namespace Framing

theorem lineFeed_not_mem_encoded {chars : List Char} (free : '\n' ∉ chars) :
    lineFeed ∉ encoded chars := by
  intro member
  obtain ⟨c, among, code⟩ := List.mem_flatMap.mp member
  exact not_mem_utf8EncodeChar (by decide) rfl (ne_of_mem_of_not_mem among free) code

theorem text?_eq_some_iff {line : List UInt8} {text : String} :
    text? line = some text ↔ line = encoded text.toList := by
  have code : (⟨(encoded text.toList).toArray⟩ : ByteArray) = text.toByteArray := by
    apply ByteArray.ext
    simp [← String.utf8Encode_toList, List.utf8Encode, encoded]
  rw [text?, String.fromUTF8?]
  constructor
  · intro isText
    split at isText
    · cases isText
      rw [String.fromUTF8] at code
      exact congrArg (·.data.toList) code.symm
    · cases isText
  · rintro rfl
    rw [code, dif_pos text.isValidUTF8]
    rfl

theorem isSome_text?_iff {line : List UInt8} :
    (text? line).isSome = true ↔ ∃ chars, line = encoded chars := by
  simp only [Option.isSome_iff_exists, text?_eq_some_iff]
  constructor
  · rintro ⟨text, rfl⟩
    exact ⟨text.toList, rfl⟩
  · rintro ⟨chars, rfl⟩
    exact ⟨.ofList chars, by rw [String.toList_ofList]⟩

/-- A carriage return is dropped as a character. -/
theorem dropReturn_encoded (chars : List Char) :
    dropReturn (encoded chars) =
      encoded (if chars.getLast? = some '\r' then chars.dropLast else chars) := by
  rcases List.eq_nil_or_concat chars with rfl | ⟨front, last, rfl⟩
  · rfl
  · have code : encoded (front ++ [last]) = encoded front ++ String.utf8EncodeChar last := by
      simp [encoded]
    have ofReturn : String.utf8EncodeChar '\r' = [carriageReturn] := by decide
    rw [List.concat_eq_append, dropReturn, List.getLast?_concat, List.dropLast_concat, code,
      List.getLast?_append_of_ne_nil _ String.utf8EncodeChar_ne_nil]
    by_cases isReturn : last = '\r'
    · rw [isReturn, ofReturn, if_pos rfl, List.getLast?_singleton, if_pos rfl,
        List.dropLast_concat]
    · have others : (String.utf8EncodeChar last).getLast? ≠ some carriageReturn := fun ends =>
        not_mem_utf8EncodeChar (by decide) rfl isReturn (List.mem_of_getLast? ends)
      rw [if_neg others, if_neg (by simpa using isReturn), code]

theorem isSome_text?_dropReturn {line : List UInt8} (isText : (text? line).isSome = true) :
    (text? (dropReturn line)).isSome = true := by
  obtain ⟨chars, rfl⟩ := isSome_text?_iff.mp isText
  exact isSome_text?_iff.mpr ⟨_, dropReturn_encoded chars⟩

theorem ofPieces_append (pieces : List (List UInt8)) {rest : List (List UInt8)}
    (nonempty : rest ≠ []) :
    ofPieces (pieces ++ rest) = pieces.map dropReturn ++ ofPieces rest := by
  induction pieces with
  | nil => rfl
  | cons piece pieces ih =>
      cases next : pieces ++ rest with
      | nil => exact absurd (List.append_eq_nil_iff.mp next).2 nonempty
      | cons first others =>
          rw [List.cons_append, next, ofPieces, ← next, ih]
          rfl

/-- The first line feed ends the first line. -/
theorem lines_append_cons {front : List UInt8} (free : lineFeed ∉ front) (rest : List UInt8) :
    lines (front ++ lineFeed :: rest) = dropReturn front :: lines rest := by
  rw [lines, splitAt_append_mark free]
  exact ofPieces_append [front] (splitAt_ne_nil lineFeed rest)

theorem dropReturn_append_return (line : List UInt8) :
    dropReturn (line ++ [carriageReturn]) = line := by
  rw [dropReturn, List.getLast?_concat, if_pos rfl, List.dropLast_concat]

theorem lines_append_return {line : List UInt8} (free : lineFeed ∉ line) (rest : List UInt8) :
    lines (line ++ carriageReturn :: lineFeed :: rest) = line :: lines rest := by
  have stillFree : lineFeed ∉ line ++ [carriageReturn] := by
    rw [List.mem_append, not_or]
    exact ⟨free, by decide⟩
  have ended : line ++ carriageReturn :: lineFeed :: rest =
      line ++ [carriageReturn] ++ lineFeed :: rest := by
    rw [List.append_assoc, List.singleton_append]
  rw [ended, lines_append_cons stillFree, dropReturn_append_return]

theorem lines_of_not_mem {line : List UInt8} (nonempty : line ≠ []) (free : lineFeed ∉ line) :
    lines line = [line] := by
  rw [lines, splitAt_of_not_mem free, ofPieces, if_neg (by simpa using nonempty)]

/-- The lines that an input divides into. A line feed ends a line, together with a
carriage return before it; what comes last needs no end and keeps its carriage
return. -/
inductive Divides : List UInt8 → List (List UInt8) → Prop
  | nothing : Divides [] []
  | feed {line rest : List UInt8} {lines : List (List UInt8)} : 0x0A ∉ line →
      line.getLast? ≠ some 0x0D → Divides rest lines →
        Divides (line ++ 0x0A :: rest) (line :: lines)
  | returnAndFeed {line rest : List UInt8} {lines : List (List UInt8)} : 0x0A ∉ line →
      Divides rest lines → Divides (line ++ 0x0D :: 0x0A :: rest) (line :: lines)
  | last {line : List UInt8} : line ≠ [] → 0x0A ∉ line → Divides line [line]

theorem divides_lines (input : List UInt8) : Divides input (lines input) := by
  -- The part up to the first line feed comes off, and what comes after it is shorter.
  by_cases feeds : lineFeed ∈ input
  · obtain ⟨front, rest, split, free⟩ := List.eq_append_cons_of_mem feeds
    have shorter : rest.length < input.length := by
      rw [split, List.length_append, List.length_cons]
      omega
    have others : Divides rest (lines rest) := divides_lines rest
    rw [split, lines_append_cons free]
    by_cases ends : front.getLast? = some carriageReturn
    · obtain ⟨line, rfl⟩ := List.getLast?_eq_some_iff.mp ends
      rw [dropReturn_append_return, List.append_assoc]
      exact .returnAndFeed (fun among => free (List.mem_append_left _ among)) others
    · rw [dropReturn, if_neg ends]
      exact .feed free ends others
  · by_cases empty : input = []
    · rw [empty]
      exact .nothing
    · rw [lines_of_not_mem empty feeds]
      exact .last empty feeds
termination_by input.length

theorem Divides.eq_lines {input : List UInt8} {pieces : List (List UInt8)}
    (divides : Divides input pieces) : pieces = lines input := by
  induction divides with
  | nothing => rfl
  | @feed line rest others free noReturn _ ih =>
      have kept : dropReturn line = line := if_neg noReturn
      calc
        line :: others = dropReturn line :: lines rest := by rw [kept, ih]
        _ = lines (line ++ lineFeed :: rest) := (lines_append_cons free rest).symm
  | @returnAndFeed line rest others free _ ih =>
      rw [ih]
      exact (lines_append_return free rest).symm
  | last nonempty free => exact (lines_of_not_mem nonempty free).symm

/-- An input divides into its lines and into nothing else. -/
theorem divides_iff {input : List UInt8} {pieces : List (List UInt8)} :
    Divides input pieces ↔ pieces = lines input := by
  constructor
  · exact Divides.eq_lines
  · rintro rfl
    exact divides_lines input

/-- Lines that are ended stay as they are, whatever comes after them. -/
theorem lines_append {first : List UInt8} (ends : first.getLast? = some lineFeed)
    (second : List UInt8) : lines (first ++ second) = lines first ++ lines second := by
  obtain ⟨front, rfl⟩ := List.getLast?_eq_some_iff.mp ends
  have opening : lines (front ++ [lineFeed]) = (splitAt lineFeed front).map dropReturn := by
    rw [lines, splitAt_append_cons, ofPieces_append _ (splitAt_ne_nil _ _)]
    exact List.append_nil _
  rw [opening, lines, List.append_assoc, List.singleton_append, splitAt_append_cons,
    ofPieces_append _ (splitAt_ne_nil _ _), lines]

theorem isSome_text?_of_mem_ofPieces {pieces : List (List UInt8)}
    (texts : ∀ piece ∈ pieces, (text? piece).isSome = true) :
    ∀ line ∈ ofPieces pieces, (text? line).isSome = true := by
  fun_induction ofPieces pieces with
  | case1 => exact fun line among => nomatch among
  | case2 last empty => exact fun line among => nomatch among
  | case3 last notEmpty => exact texts
  | case4 piece next rest ih =>
      obtain ⟨first, others⟩ := List.forall_mem_cons.mp texts
      exact List.forall_mem_cons.mpr ⟨isSome_text?_dropReturn first, ih others⟩

/-- The lines of a text are texts. -/
theorem isSome_text?_of_mem_lines {input line : List UInt8} (isText : (text? input).isSome = true)
    (among : line ∈ lines input) : (text? line).isSome = true := by
  obtain ⟨chars, rfl⟩ := isSome_text?_iff.mp isText
  refine isSome_text?_of_mem_ofPieces (fun piece isPiece => ?_) line among
  have apart (c : Char) (other : c ≠ '\n') : lineFeed ∉ String.utf8EncodeChar c :=
    not_mem_utf8EncodeChar (by decide) rfl other
  have split : splitAt lineFeed (encoded chars) = (splitAt '\n' chars).map encoded :=
    splitAt_flatMap (by decide) apart chars
  rw [split] at isPiece
  obtain ⟨part, -, rfl⟩ := List.mem_map.mp isPiece
  exact isSome_text?_iff.mpr ⟨part, rfl⟩

end Framing

end PrismaZod
