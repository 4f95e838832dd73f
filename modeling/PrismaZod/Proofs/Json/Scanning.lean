import Mathlib.Data.List.Basic
import PrismaZod.Json.Printer
import PrismaZod.Json.Tree

/-!
# Texts that spell tokens

Characters spell tokens if the scanner, wherever it starts between two tokens,
finds these tokens in them and is left ready for punctuation or the end.  A
number or a word is still open then, and ends with what follows.
-/

namespace PrismaZod.Json

/-- The scanner has found the tokens as soon as punctuation comes, or nothing
more. -/
structure Scan.Settles (scan : Scan) (found : List Token) : Prop where
  finish : scan.finish = some found.reverse
  punctuation : ∀ c token, Scan.punctuation? c = some token →
    scan.step c = some ⟨token :: found, .nothing⟩

def Spells (chars : List Char) (tokens : List Token) : Prop :=
  ∀ found, ∃ scan, chars.foldlM Scan.step ⟨found, .nothing⟩ = some scan ∧
    scan.Settles (tokens.reverse ++ found)

namespace Scan

variable {c : Char} {token : Token} {found : List Token}

/-- Punctuation is nothing that could continue a token. -/
theorem punctuation_outside (mark : punctuation? c = some token) :
    isBlank c = false ∧ c ≠ '"' ∧ c ≠ '-' ∧ c.isDigit = false ∧ c.isLower = false ∧
      isNumberChar c = false := by
  have among : c ∈ ['[', ']', '{', '}', ':', ','] := by
    rw [punctuation?] at mark
    repeat' split at mark
    all_goals simp_all
  simp only [List.mem_cons, List.not_mem_nil, or_false] at among
  rcases among with rfl | rfl | rfl | rfl | rfl | rfl <;> decide

theorem start_punctuation (mark : punctuation? c = some token) (found : List Token) :
    start found c = some ⟨token :: found, .nothing⟩ := by
  obtain ⟨noBlank, noQuote, noMinus, noDigit, noLetter, -⟩ := punctuation_outside mark
  simp [start, noBlank, noQuote, noMinus, noDigit, noLetter, mark]

theorem start_of_number (opens : c = '-' ∨ c.isDigit = true) (found : List Token) :
    start found c = some ⟨found, .number [c]⟩ := by
  have inside : c ∉ [' ', '\t', '\n', '\r', '"'] := by
    simp only [List.mem_cons, List.not_mem_nil, or_false]
    rintro (rfl | rfl | rfl | rfl | rfl) <;> exact absurd opens (by decide)
  simp only [List.mem_cons, List.not_mem_nil, or_false, not_or] at inside
  simp [start, isBlank, inside, opens]

theorem toNat_of_isLower (lower : c.isLower = true) :
    'a'.toNat ≤ c.toNat ∧ c.toNat ≤ 'z'.toNat := by
  have both : (decide (c.val ≥ 'a'.val) && decide (c.val ≤ 'z'.val)) = true := lower
  simp only [Bool.and_eq_true, decide_eq_true_eq, ge_iff_le, UInt32.le_iff_toNat_le] at both
  exact both

theorem start_of_letter (lower : c.isLower = true) (found : List Token) :
    start found c = some ⟨found, .word [c]⟩ := by
  have inside : c ∉ [' ', '\t', '\n', '\r', '"', '-'] := by
    simp only [List.mem_cons, List.not_mem_nil, or_false]
    rintro (rfl | rfl | rfl | rfl | rfl | rfl) <;> exact absurd lower (by decide)
  have noDigit : c.isDigit = false := by
    rw [Bool.eq_false_iff]
    intro digit
    have below : 'a'.toNat ≤ '9'.toNat :=
      Nat.le_trans (toNat_of_isLower lower).1 (Char.isDigit_iff_toNat.mp digit).2
    exact absurd below (by decide)
  simp only [List.mem_cons, List.not_mem_nil, or_false, not_or] at inside
  simp [start, isBlank, inside, noDigit, lower]

theorem settles_nothing (found : List Token) : Settles ⟨found, .nothing⟩ found where
  finish := rfl
  punctuation _ _ mark := start_punctuation mark found

theorem settles_number {chars : List Char} {literal : NumberLiteral}
    (spelled : NumberLiteral.ofChars? chars.reverse = some literal) :
    Settles ⟨found, .number chars⟩ (.number literal :: found) where
  finish := by simp [finish, closeToken?, spelled]
  punctuation c token mark := by
    have outside := (punctuation_outside mark).2.2.2.2.2
    simp [step, closeToken?, spelled, outside, start_punctuation mark]

theorem settles_word {letters : List Char} (spelled : wordToken? letters.reverse = some token) :
    Settles ⟨found, .word letters⟩ (token :: found) where
  finish := by simp [finish, closeToken?, spelled]
  punctuation c other mark := by
    have outside := (punctuation_outside mark).2.2.2.2.1
    simp [step, closeToken?, spelled, outside, start_punctuation mark]

theorem foldlM_number {chars : List Char} (numeric : ∀ c ∈ chars, isNumberChar c = true)
    (read : List Char) :
    chars.foldlM step ⟨found, .number read⟩ = some ⟨found, .number (chars.reverse ++ read)⟩ := by
  induction chars generalizing read with
  | nil => rfl
  | cons c chars ih =>
      obtain ⟨first, rest⟩ := List.forall_mem_cons.mp numeric
      have next : step ⟨found, .number read⟩ c = some ⟨found, .number (c :: read)⟩ := by
        simp [step, first]
      rw [List.foldlM_cons, next, Option.bind_eq_bind, Option.bind_some, ih rest]
      simp

theorem foldlM_word {letters : List Char} (lower : ∀ c ∈ letters, c.isLower = true)
    (read : List Char) :
    letters.foldlM step ⟨found, .word read⟩ = some ⟨found, .word (letters.reverse ++ read)⟩ := by
  induction letters generalizing read with
  | nil => rfl
  | cons c letters ih =>
      obtain ⟨first, rest⟩ := List.forall_mem_cons.mp lower
      have next : step ⟨found, .word read⟩ c = some ⟨found, .word (c :: read)⟩ := by
        simp [step, first]
      rw [List.foldlM_cons, next, Option.bind_eq_bind, Option.bind_some, ih rest]
      simp

end Scan

/-! ## Tokens and punctuation -/

theorem tokens?_of_spells {chars : List Char} {tokens : List Token}
    (spells : Spells chars tokens) : tokens? chars = some tokens := by
  obtain ⟨scan, scanned, settles⟩ := spells []
  rw [tokens?, scanned, Option.bind_some, settles.finish]
  simp

theorem spells_nil : Spells [] [] :=
  fun found => ⟨⟨found, .nothing⟩, rfl, Scan.settles_nothing found⟩

/-- Two texts with punctuation between them spell their tokens with its token
between them. -/
theorem Spells.punctuation {first second : List Char} {tokens more : List Token} {c : Char}
    {token : Token} (front : Spells first tokens) (mark : Scan.punctuation? c = some token)
    (back : Spells second more) : Spells (first ++ c :: second) (tokens ++ token :: more) := by
  intro found
  obtain ⟨middle, scannedFront, settles⟩ := front found
  obtain ⟨scan, scannedBack, settlesBack⟩ := back (token :: (tokens.reverse ++ found))
  refine ⟨scan, ?_, by simpa using settlesBack⟩
  rw [List.foldlM_append, scannedFront, Option.bind_eq_bind, Option.bind_some, List.foldlM_cons,
    settles.punctuation c token mark, Option.bind_eq_bind, Option.bind_some, scannedBack]

theorem spells_number {first : Char} {rest : List Char} {literal : NumberLiteral}
    (opens : first = '-' ∨ first.isDigit = true)
    (numeric : ∀ c ∈ rest, Scan.isNumberChar c = true)
    (spelled : NumberLiteral.ofChars? (first :: rest) = some literal) :
    Spells (first :: rest) [.number literal] := by
  intro found
  have opened : Scan.step ⟨found, .nothing⟩ first = some ⟨found, .number [first]⟩ :=
    Scan.start_of_number opens found
  refine ⟨⟨found, .number (rest.reverse ++ [first])⟩, ?_, ?_⟩
  · rw [List.foldlM_cons, opened, Option.bind_eq_bind, Option.bind_some,
      Scan.foldlM_number numeric]
  · exact Scan.settles_number (by simpa using spelled)

theorem spells_word {first : Char} {rest : List Char} {token : Token}
    (lower : ∀ c ∈ first :: rest, c.isLower = true)
    (spelled : Scan.wordToken? (first :: rest) = some token) :
    Spells (first :: rest) [token] := by
  intro found
  obtain ⟨opens, others⟩ := List.forall_mem_cons.mp lower
  have opened : Scan.step ⟨found, .nothing⟩ first = some ⟨found, .word [first]⟩ :=
    Scan.start_of_letter opens found
  refine ⟨⟨found, .word (rest.reverse ++ [first])⟩, ?_, ?_⟩
  · rw [List.foldlM_cons, opened, Option.bind_eq_bind, Option.bind_some, Scan.foldlM_word others]
  · exact Scan.settles_word (by simpa using spelled)

/-! ## Quoted texts -/

/-- What a character of a text is read as: most controls are written as code
units, everything else stands for itself. -/
def piece (c : Char) : Piece :=
  if 0x20 ≤ c.toNat ∨ c ∈ ['\x08', '\t', '\n', '\x0c', '\r'] then .char c else .unit c.toNat

def pieces (value : String) : List Piece :=
  value.toList.map piece

theorem hexValue?_digitChar {digit : Nat} (small : digit < 16) :
    Text.hexValue? (Nat.digitChar digit) = some digit := by
  have each : ∀ digit < 16, Text.hexValue? (Nat.digitChar digit) = some digit := by decide
  exact each digit small

theorem scan_stringChar (found : List Token) (read : List Piece) (c : Char) :
    (stringChar c).foldlM Scan.step ⟨found, .text read⟩ =
      some ⟨found, .text (piece c :: read)⟩ := by
  by_cases named : c ∈ ['"', '\\', '\x08', '\t', '\n', '\x0c', '\r']
  · simp only [List.mem_cons, List.not_mem_nil, or_false] at named
    rcases named with rfl | rfl | rfl | rfl | rfl | rfl | rfl <;> rfl
  · simp only [List.mem_cons, List.not_mem_nil, or_false, not_or] at named
    by_cases control : c.toNat < 0x20
    · have isUnit : piece c = .unit c.toNat := by
        simp [piece, named, Nat.not_le.mpr control]
      have high := hexValue?_digitChar (by omega : c.toNat / 16 < 16)
      have low := hexValue?_digitChar (by omega : c.toNat % 16 < 16)
      have zero : Text.hexValue? '0' = some 0 := by decide
      have code : c.toNat / 16 * 16 + c.toNat % 16 = c.toNat := by omega
      simp [stringChar, named, control, Scan.step, zero, high, low, code, isUnit]
    · have isChar : piece c = .char c := by
        simp [piece, Nat.not_lt.mp control]
      simp [stringChar, named, control, Scan.step, isChar]

theorem spells_stringText (value : String) :
    Spells (stringText value).toList [.text (pieces value)] := by
  intro found
  have inside (chars : List Char) (read : List Piece) :
      (chars.flatMap stringChar).foldlM Scan.step ⟨found, .text read⟩ =
        some ⟨found, .text ((chars.map piece).reverse ++ read)⟩ := by
    induction chars generalizing read with
    | nil => rfl
    | cons c chars ih =>
        rw [List.flatMap_cons, List.foldlM_append, scan_stringChar, Option.bind_eq_bind,
          Option.bind_some, ih]
        simp
  have opened : Scan.step ⟨found, .nothing⟩ '"' = some ⟨found, .text []⟩ := rfl
  refine ⟨⟨.text (pieces value) :: found, .nothing⟩, ?_, Scan.settles_nothing _⟩
  rw [stringText, String.toList_ofList, List.foldlM_cons, opened, Option.bind_eq_bind,
    Option.bind_some, List.foldlM_append, inside]
  simp [Scan.step, pieces]

theorem chars?_unit {code : Nat} (low : code < 0x20) (rest : List Piece) :
    chars? (.unit code :: rest) = (chars? rest).map (Char.ofNat code :: ·) := by
  have notHigh : isHighHalf code = false := by
    simp only [isHighHalf, Bool.and_eq_false_iff, decide_eq_false_iff_not]
    omega
  have notLow : isLowHalf code = false := by
    simp only [isLowHalf, Bool.and_eq_false_iff, decide_eq_false_iff_not]
    omega
  cases rest with
  | nil => simp [chars?, notHigh, notLow]
  | cons next rest => cases next <;> simp [chars?, notHigh, notLow]

/-- The pieces of a text make it up. -/
theorem string?_pieces (value : String) : string? (pieces value) = some value := by
  have chars (list : List Char) : chars? (list.map piece) = some list := by
    induction list with
    | nil => rfl
    | cons c list ih =>
        rw [List.map_cons]
        by_cases isChar : 0x20 ≤ c.toNat ∨ c ∈ ['\x08', '\t', '\n', '\x0c', '\r']
        · rw [piece, if_pos isChar, chars?, ih]
          rfl
        · have low : c.toNat < 0x20 := by omega
          rw [piece, if_neg isChar, chars?_unit low, ih, Char.ofNat_toNat]
          rfl
  simp [string?, pieces, chars]

end PrismaZod.Json
