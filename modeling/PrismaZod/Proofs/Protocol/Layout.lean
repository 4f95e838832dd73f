import PrismaZod.Proofs.Protocol.Composition
import PrismaZod.Proofs.Text.Trimming

/-!
# Layouts of lines

Lines may be ended by a line feed or by a carriage return and a line feed, there
may be blank lines among them, and the last line needs no end.  A service cannot
tell one such layout from another: it does the same on the bytes of each.
-/

namespace PrismaZod

open Text

namespace Framing

/-- What ends a line. -/
inductive Terminator
  | feed
  | returnAndFeed
deriving DecidableEq, Repr

def Terminator.bytes : Terminator → List UInt8
  | feed => [lineFeed]
  | returnAndFeed => [carriageReturn, lineFeed]

/-- A line without its terminator. A carriage return at its end would be taken for a
part of a terminator. -/
structure IsLine (text : String) : Prop where
  oneLine : Free '\n' text
  noReturn : text.toList.getLast? ≠ some '\r'

/-- A line of blanks, which may include carriage returns. -/
structure IsBlankLine (text : String) : Prop where
  oneLine : Free '\n' text
  blank : isBlankText text = true

/-- The lines, each ended by a line feed. -/
def plain (lines : List String) : List UInt8 :=
  lines.flatMap fun line => encoded line.toList ++ [lineFeed]

/-- The bytes are the lines in order, with any terminators and with blank lines
anywhere; what comes last may have no terminator. -/
inductive LaysOut : List String → List UInt8 → Prop
  | nothing : LaysOut [] []
  | line {line : String} {lines : List String} {rest : List UInt8} (terminator : Terminator) :
      IsLine line → LaysOut lines rest →
        LaysOut (line :: lines) (encoded line.toList ++ terminator.bytes ++ rest)
  | blank {text : String} {lines : List String} {rest : List UInt8} (terminator : Terminator) :
      IsBlankLine text → LaysOut lines rest →
        LaysOut lines (encoded text.toList ++ terminator.bytes ++ rest)
  | lastLine {line : String} : IsLine line → LaysOut [line] (encoded line.toList)
  | lastBlank {text : String} : IsBlankLine text → LaysOut [] (encoded text.toList)

/-- What is left of characters up to a terminator. -/
def Terminator.before (terminator : Terminator) (chars : List Char) : List Char :=
  match terminator with
  | feed => if chars.getLast? = some '\r' then chars.dropLast else chars
  | returnAndFeed => chars

theorem Terminator.before_subset (terminator : Terminator) (chars : List Char) :
    terminator.before chars ⊆ chars := by
  cases terminator with
  | feed =>
      rw [before]
      split
      · exact List.dropLast_subset chars
      · exact List.Subset.refl chars
  | returnAndFeed => exact List.Subset.refl chars

theorem IsLine.before_eq {line : String} (isLine : IsLine line) (terminator : Terminator) :
    terminator.before line.toList = line.toList := by
  cases terminator with
  | feed => exact if_neg isLine.noReturn
  | returnAndFeed => rfl

/-- A terminator ends the first line. -/
theorem lines_terminated {chars : List Char} (free : '\n' ∉ chars) (terminator : Terminator)
    (rest : List UInt8) :
    lines (encoded chars ++ terminator.bytes ++ rest) =
      encoded (terminator.before chars) :: lines rest := by
  have codesFree : lineFeed ∉ encoded chars := lineFeed_not_mem_encoded free
  rw [List.append_assoc]
  cases terminator with
  | feed =>
      rw [Terminator.before, ← dropReturn_encoded]
      exact lines_append_cons codesFree rest
  | returnAndFeed => exact lines_append_return codesFree rest

end Framing

section Serving

open Framing

variable {m : Type → Type} [Monad m] [Host m]

theorem serveLines_cons_congr (line : List UInt8) {first second : List (List UInt8)}
    (same : (serveLines first : m Service) = serveLines second) :
    (serveLines (line :: first) : m Service) = serveLines (line :: second) := by
  rw [serveLines, serveLines, same]

variable [LawfulMonad m]

/-- A blank line might as well not be there. -/
theorem serveLines_blank {chars : List Char} (blank : ∀ c ∈ chars, isBlank c = true)
    (rest : List (List UInt8)) :
    (serveLines (encoded chars :: rest) : m Service) = serveLines rest := by
  have decoded : text? (encoded chars) = some (.ofList chars) := by
    rw [text?_eq_some_iff, String.toList_ofList]
  have unanswered : (answer? (.ofList chars) : m (Option Response)) = pure none := by
    rw [answer?, if_pos (isBlankText_iff.mpr (by simpa using blank))]
  rw [serveLines, decoded]
  simp [unanswered]

/-- Without a terminator there is one line, or none. -/
theorem serve_unterminated {chars : List Char} (free : '\n' ∉ chars) :
    (serve (encoded chars) : m Service) = serveLines [encoded chars] := by
  rw [serve, Framing.lines, splitAt_of_not_mem (lineFeed_not_mem_encoded free), ofPieces]
  split
  · rename_i empty
    have nothing : encoded chars = encoded [] := List.isEmpty_iff.mp empty
    rw [nothing]
    exact (serveLines_blank (by simp) []).symm
  · rfl

theorem plain_cons (line : String) (lines : List String) :
    plain (line :: lines) = encoded line.toList ++ Terminator.feed.bytes ++ plain lines :=
  rfl

/-- Every layout of lines is served like the plain one. -/
theorem serve_eq_serve_plain {lines : List String} {input : List UInt8}
    (layout : LaysOut lines input) : (serve input : m Service) = serve (plain lines) := by
  -- Each part of a layout comes off at the front, as one line of the input.
  induction layout with
  | nothing => rfl
  | @line line lines rest terminator isLine _ ih =>
      rw [plain_cons, serve, serve, lines_terminated isLine.oneLine, isLine.before_eq,
        lines_terminated isLine.oneLine, isLine.before_eq]
      exact serveLines_cons_congr _ ih
  | @blank text lines rest terminator isBlankLine _ ih =>
      rw [serve, lines_terminated isBlankLine.oneLine, serveLines_blank]
      · exact ih
      · exact fun c member => isBlankText_iff.mp isBlankLine.blank c
          (terminator.before_subset text.toList member)
  | @lastLine line isLine =>
      rw [serve_unterminated isLine.oneLine, plain_cons, serve, lines_terminated isLine.oneLine,
        isLine.before_eq]
      rfl
  | @lastBlank text isBlankLine =>
      rw [serve_unterminated isBlankLine.oneLine,
        serveLines_blank (isBlankText_iff.mp isBlankLine.blank)]
      rfl

end Serving

theorem Framing.plain_eq_encoded (lines : List String) :
    plain lines = encoded (lines.flatMap fun line => line.toList ++ ['\n']) := by
  have code : encoded ['\n'] = [lineFeed] := by decide
  induction lines with
  | nil => rfl
  | cons line lines ih =>
      rw [plain_cons, ih, List.flatMap_cons, encoded_append, encoded_append, code]
      rfl

/-- A service does the same on every layout of the same lines: the responses, the
events and the disk that is left are those of the lines each ended by a line feed,
and it goes on to the end. -/
theorem serve_layout {lines : List String} {input : List UInt8}
    (layout : Framing.LaysOut lines input) (start : World) :
    (serve input : StateM World Service).run start =
        (serve (Framing.plain lines) : StateM World Service).run start ∧
      ((serve input : StateM World Service).run start).1.complete = true := by
  have isText : (Framing.text? (Framing.plain lines)).isSome = true :=
    Framing.isSome_text?_iff.mpr ⟨_, Framing.plain_eq_encoded lines⟩
  rw [serve_eq_serve_plain layout]
  exact ⟨rfl, complete_serve isText start⟩

/-- Blank lines of several kinds, both terminators, and a last line without one. -/
theorem serve_layout_mixed :
    let lines := ["[\"getManifest\"]", "", "[\"drop\",null,7]"]
    let input := encoded
      "\u2003\r\n[\"getManifest\"]\n\n \r\r\n\r\n\t\n[\"drop\",null,7]".toList
    let start : World := ⟨.fresh, []⟩
    Framing.LaysOut lines input ∧
      (serve input : StateM World Service).run start =
        (serve (Framing.plain lines) : StateM World Service).run start ∧
      ((serve input : StateM World Service).run start).1.complete = true := by
  intro lines input start
  have spelled : input =
      encoded "\u2003".toList ++ Framing.Terminator.returnAndFeed.bytes ++
      (encoded "[\"getManifest\"]".toList ++ Framing.Terminator.feed.bytes ++
      (encoded "".toList ++ Framing.Terminator.feed.bytes ++
      (encoded " \r".toList ++ Framing.Terminator.returnAndFeed.bytes ++
      (encoded "".toList ++ Framing.Terminator.returnAndFeed.bytes ++
      (encoded "\t".toList ++ Framing.Terminator.feed.bytes ++
      encoded "[\"drop\",null,7]".toList))))) := by
    decide +kernel
  have layout : Framing.LaysOut lines input := by
    rw [spelled]
    refine .blank _ ⟨by decide, by decide⟩ (.line _ ⟨by decide, by decide⟩ ?_)
    refine .blank _ ⟨by decide, by decide⟩ (.blank _ ⟨by decide, by decide⟩ ?_)
    refine .line _ ⟨by decide, by decide⟩ (.blank _ ⟨by decide, by decide⟩ ?_)
    exact .lastLine ⟨by decide, by decide⟩
  exact ⟨layout, serve_layout layout start⟩

end PrismaZod
