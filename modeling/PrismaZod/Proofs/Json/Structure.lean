import Mathlib.Data.List.Forall2
import PrismaZod.Proofs.Json.Scanning

/-!
# Texts that are read as trees

Tokens build a tree if the reader, wherever a value may stand, has this tree
after them.  Trees that tokens build are the items of arrays and the members of
objects; and where characters spell such tokens, the text is read as the tree.
-/

namespace PrismaZod.Json

/-- Wherever a value may stand, the tokens are read as the tree. -/
def Builds (tokens : List Token) (tree : Tree) : Prop :=
  ∀ frames orClose, tokens.foldlM Reading.step ⟨frames, .value orClose⟩ =
    some ⟨frames, .after tree⟩

/-- The tokens are those of a key, a colon and a value. -/
def BuildsMember (tokens : List Token) (member : List Piece × Tree) : Prop :=
  ∃ value, tokens = .text member.1 :: .colon :: value ∧ Builds value member.2

theorem builds_scalar {token : Token} {tree : Tree} (scalar : Reading.scalar? token = some tree) :
    Builds [token] tree := by
  intro frames orClose
  have taken : Reading.step ⟨frames, .value orClose⟩ token = some ⟨frames, .after tree⟩ := by
    cases token <;> cases scalar <;> rfl
  rw [List.foldlM_cons, taken]
  rfl

/-- Items with commas between them and the end of the array complete an array
that is open. -/
theorem foldlM_items {lists : List (List Token)} {trees : List Tree}
    (each : List.Forall₂ Builds lists trees) (nonempty : lists ≠ []) (frames : List Frame)
    (held : List Tree) (orClose : Bool) :
    ([Token.comma].intercalate lists ++ [Token.closeArray]).foldlM Reading.step
        ⟨.array held :: frames, .value orClose⟩ =
      some ⟨frames, .after (.array (held.reverse ++ trees))⟩ := by
  induction each generalizing held orClose with
  | nil => exact (nonempty rfl).elim
  | @cons first tree lists trees builds each ih =>
      cases lists with
      | nil =>
          cases each
          rw [List.intercalate_singleton, List.foldlM_append, builds]
          simp [Reading.step, Reading.takeAfter]
      | cons next lists =>
          have step : Reading.step ⟨.array held :: frames, .after tree⟩ .comma =
              some ⟨.array (tree :: held) :: frames, .value false⟩ := rfl
          have rest := ih (List.cons_ne_nil next lists) (tree :: held) false
          rw [List.intercalate_cons_cons, List.append_assoc, List.append_assoc,
            List.foldlM_append, builds, Option.bind_eq_bind, Option.bind_some,
            List.singleton_append, List.foldlM_cons, step, Option.bind_eq_bind,
            Option.bind_some, rest]
          simp

theorem builds_array {lists : List (List Token)} {trees : List Tree}
    (each : List.Forall₂ Builds lists trees) :
    Builds (.openArray :: ([Token.comma].intercalate lists ++ [Token.closeArray]))
      (.array trees) := by
  intro frames orClose
  have opened : Reading.step ⟨frames, .value orClose⟩ .openArray =
      some ⟨.array [] :: frames, .value true⟩ := rfl
  rw [List.foldlM_cons, opened, Option.bind_eq_bind, Option.bind_some]
  cases lists with
  | nil =>
      cases each
      rfl
  | cons first lists => exact foldlM_items each (List.cons_ne_nil first lists) frames [] true

/-- Members with commas between them and the end of the object complete an
object that is open. -/
theorem foldlM_members {lists : List (List Token)} {members : List (List Piece × Tree)}
    (each : List.Forall₂ BuildsMember lists members) (nonempty : lists ≠ []) (frames : List Frame)
    (held : List (List Piece × Tree)) (orClose : Bool) :
    ([Token.comma].intercalate lists ++ [Token.closeObject]).foldlM Reading.step
        ⟨frames, .key held orClose⟩ =
      some ⟨frames, .after (.object (held.reverse ++ members))⟩ := by
  induction each generalizing held orClose with
  | nil => exact (nonempty rfl).elim
  | @cons first member lists members builds each ih =>
      obtain ⟨key, tree⟩ := member
      obtain ⟨value, rfl, buildsValue⟩ := builds
      have read : (Token.text key :: .colon :: value).foldlM Reading.step
          ⟨frames, .key held orClose⟩ = some ⟨.object held key :: frames, .after tree⟩ := by
        exact buildsValue (.object held key :: frames) false
      cases lists with
      | nil =>
          cases each
          rw [List.intercalate_singleton, List.foldlM_append, read]
          simp [Reading.step, Reading.takeAfter]
      | cons next lists =>
          have step : Reading.step ⟨.object held key :: frames, .after tree⟩ .comma =
              some ⟨frames, .key ((key, tree) :: held) false⟩ := rfl
          have rest := ih (List.cons_ne_nil next lists) ((key, tree) :: held) false
          rw [List.intercalate_cons_cons, List.append_assoc, List.append_assoc,
            List.foldlM_append, read, Option.bind_eq_bind, Option.bind_some,
            List.singleton_append, List.foldlM_cons, step, Option.bind_eq_bind,
            Option.bind_some, rest]
          simp

theorem builds_object {lists : List (List Token)} {members : List (List Piece × Tree)}
    (each : List.Forall₂ BuildsMember lists members) :
    Builds (.openObject :: ([Token.comma].intercalate lists ++ [Token.closeObject]))
      (.object members) := by
  intro frames orClose
  have opened : Reading.step ⟨frames, .value orClose⟩ .openObject =
      some ⟨frames, .key [] true⟩ := rfl
  rw [List.foldlM_cons, opened, Option.bind_eq_bind, Option.bind_some]
  cases lists with
  | nil =>
      cases each
      rfl
  | cons first lists => exact foldlM_members each (List.cons_ne_nil first lists) frames [] true

/-! ## Texts -/

/-- The text is read as the tree. -/
def Spelled (text : String) (tree : Tree) : Prop :=
  ∃ tokens, Spells text.toList tokens ∧ Builds tokens tree

theorem ofText?_of_spelled {text : String} {tree : Tree} (spelled : Spelled text tree) :
    Tree.ofText? text = some tree := by
  obtain ⟨tokens, spells, builds⟩ := spelled
  rw [Tree.ofText?, tokens?_of_spells spells, Option.bind_some, Tree.ofTokens?,
    Reading.initial, builds]
  rfl

theorem spelled_stringText (value : String) : Spelled (stringText value) (.text (pieces value)) :=
  ⟨[.text (pieces value)], spells_stringText value, builds_scalar rfl⟩

/-- Texts with commas between them spell their tokens with commas between them. -/
theorem spells_intercalate {texts : List (List Char)} {lists : List (List Token)}
    (each : List.Forall₂ Spells texts lists) :
    Spells ([','].intercalate texts) ([Token.comma].intercalate lists) := by
  induction each with
  | nil => exact spells_nil
  | @cons text list texts lists spells each ih =>
      cases each with
      | nil => simpa using spells
      | cons next each =>
          have comma : Scan.punctuation? ',' = some .comma := rfl
          simpa [List.intercalate_cons_cons] using spells.punctuation comma ih

/-- A text in brackets spells its tokens between those of the brackets. -/
theorem Spells.enclosed {chars : List Char} {tokens : List Token} {opening closing : Char}
    {first last : Token} (inside : Spells chars tokens)
    (opens : Scan.punctuation? opening = some first)
    (closes : Scan.punctuation? closing = some last) :
    Spells (opening :: (chars ++ [closing])) (first :: (tokens ++ [last])) := by
  simpa using (spells_nil.punctuation opens inside).punctuation closes spells_nil

/-- Where each item of a list is related to the one of another through something
between them, the lists are related through a list of these. -/
theorem exists_middle {α β γ : Type} {first : α → β → Prop} {second : β → γ → Prop}
    {starts : List α} {ends : List γ}
    (each : List.Forall₂ (fun a c => ∃ b, first a b ∧ second b c) starts ends) :
    ∃ middles, List.Forall₂ first starts middles ∧ List.Forall₂ second middles ends := by
  induction each with
  | nil => exact ⟨[], .nil, .nil⟩
  | cons head _ ih =>
      obtain ⟨middle, toMiddle, fromMiddle⟩ := head
      obtain ⟨middles, toMiddles, fromMiddles⟩ := ih
      exact ⟨middle :: middles, .cons toMiddle toMiddles, .cons fromMiddle fromMiddles⟩

theorem spelled_array {texts : List String} {trees : List Tree}
    (each : List.Forall₂ Spelled texts trees) :
    Spelled ("[" ++ ",".intercalate texts ++ "]") (.array trees) := by
  obtain ⟨lists, spells, builds⟩ := exists_middle each
  refine ⟨_, ?_, builds_array builds⟩
  have inside := spells_intercalate (List.forall₂_map_left_iff.mpr spells)
  simpa using inside.enclosed (rfl : Scan.punctuation? '[' = some .openArray)
    (rfl : Scan.punctuation? ']' = some .closeArray)

/-- The text is read as the member of an object. -/
def SpelledMember (text : String) (member : List Piece × Tree) : Prop :=
  ∃ key value, text = memberText key value ∧ member.1 = pieces key ∧ Spelled value member.2

theorem spelled_object {texts : List String} {members : List (List Piece × Tree)}
    (each : List.Forall₂ SpelledMember texts members) :
    Spelled (objectText texts) (.object members) := by
  have tokensOf (text : String) (member : List Piece × Tree)
      (spelled : SpelledMember text member) :
      ∃ tokens, Spells text.toList tokens ∧ BuildsMember tokens member := by
    obtain ⟨key, value, rfl, isKey, tokens, spells, builds⟩ := spelled
    refine ⟨.text member.1 :: .colon :: tokens, ?_, tokens, rfl, builds⟩
    have colon : Scan.punctuation? ':' = some .colon := rfl
    simpa [memberText, isKey] using (spells_stringText key).punctuation colon spells
  obtain ⟨lists, spells, builds⟩ := exists_middle (each.imp tokensOf)
  refine ⟨_, ?_, builds_object builds⟩
  have inside := spells_intercalate (List.forall₂_map_left_iff.mpr spells)
  simpa [objectText] using inside.enclosed (rfl : Scan.punctuation? '{' = some .openObject)
    (rfl : Scan.punctuation? '}' = some .closeObject)

end PrismaZod.Json
