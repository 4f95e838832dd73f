import PrismaZod.Proofs.Text.Span
import PrismaZod.Schema.Validator

/-!
# Reading validators back

The source of a validator that names only words, and whose defaults do not hold
the mark that ends them, determines the validator, also within a longer text.
A validator is read as a head, which starts with a keyword or is a name, and
the wrappers that follow it; what comes after the wrappers has to be a comma or
a parenthesis.
-/

namespace PrismaZod

open Text

/-- What a number or a boolean is written with. -/
def isRawChar (c : Char) : Bool :=
  isWordChar c || c == '.' || c == '+' || c == '-'

/-- The source of the literal shows where the literal ends. -/
def Literal.Legible : Literal → Prop
  | string text => Free '\'' text
  | raw text => ∀ c ∈ text.toList, isRawChar c = true
  | bigInt text => Free ')' text

/-- The source of the validator shows where each of its parts ends. -/
def Validator.Legible : Validator → Prop
  | instanceOf className => Free ')' className
  | reference name => IsWord name
  | array item => item.Legible
  | nullable base => base.Legible
  | withDefault base literal => base.Legible ∧ literal.Legible
  | _ => True

section Raw

variable {text : String} (inside : ∀ c ∈ text.toList, isRawChar c = true)
  {rest other : List Char}

include inside

private theorem raw_ne_string : text.toList ++ ')' :: rest ≠ '\'' :: other := by
  intro equal
  have nothing : ∀ c ∈ ([] : List Char), isRawChar c = true := nofun
  have parts := span_unique inside nothing (leaves_cons (by decide)) (leaves_cons (by decide))
    equal
  simp at parts

/-- What is written raw is followed by no parenthesis that opens. -/
private theorem raw_ne_bigInt :
    text.toList ++ ')' :: rest ≠ "BigInt".toList ++ '(' :: other := by
  intro equal
  have letters : ∀ c ∈ "BigInt".toList, isRawChar c = true := List.all_eq_true.mp (by decide)
  have parts := span_unique inside letters (leaves_cons (by decide)) (leaves_cons (by decide))
    equal
  simp at parts

end Raw

theorem Literal.source_unique {first second : Literal} {rest other : List Char}
    (firstLegible : first.Legible) (secondLegible : second.Legible)
    (equal : first.source.toList ++ ')' :: rest = second.source.toList ++ ')' :: other) :
    first = second ∧ rest = other := by
  cases first with
  | string text =>
      cases second with
      | string otherText =>
          have parts := free_unique firstLegible secondLegible
            (by simpa [Literal.source] using equal)
          exact ⟨congrArg _ parts.1, by simpa using parts.2⟩
      | raw otherText =>
          exact (raw_ne_string secondLegible (by simpa [Literal.source] using equal.symm)).elim
      | bigInt otherText => simp [Literal.source] at equal
  | raw text =>
      cases second with
      | string otherText =>
          exact (raw_ne_string firstLegible (by simpa [Literal.source] using equal)).elim
      | raw otherText =>
          have parts := span_unique firstLegible secondLegible (leaves_cons (by decide))
            (leaves_cons (by decide)) equal
          exact ⟨congrArg _ (String.toList_injective parts.1), (List.cons.inj parts.2).2⟩
      | bigInt otherText =>
          exact (raw_ne_bigInt firstLegible (by simpa [Literal.source] using equal)).elim
  | bigInt text =>
      cases second with
      | string otherText => simp [Literal.source] at equal
      | raw otherText =>
          exact (raw_ne_bigInt secondLegible (by simpa [Literal.source] using equal.symm)).elim
      | bigInt otherText =>
          have parts := free_unique firstLegible secondLegible
            (by simpa [Literal.source] using equal)
          exact ⟨congrArg _ parts.1, by simpa using parts.2⟩

/-- What is written after a validator that it wraps. -/
inductive Wrapper
  | nullable
  | withDefault (literal : Literal)

namespace Wrapper

def apply : Wrapper → Validator → Validator
  | nullable, base => .nullable base
  | withDefault literal, base => .withDefault base literal

def source : Wrapper → String
  | nullable => ".nullable()"
  | withDefault literal => ".default(" ++ literal.source ++ ")"

def Legible : Wrapper → Prop
  | nullable => True
  | withDefault literal => literal.Legible

end Wrapper

/-- The validator inside wrappers, innermost first. -/
def Validator.wrapAll (base : Validator) (wrappers : List Wrapper) : Validator :=
  wrappers.foldl (fun inner wrapper => wrapper.apply inner) base

/-- The source of wrappers, innermost first. -/
def wrapperText (wrappers : List Wrapper) : List Char :=
  wrappers.flatMap (·.source.toList)

/-- A comma or a parenthesis comes next. -/
def Ends : List Char → Prop
  | ',' :: _ | ')' :: _ => True
  | _ => False

theorem wrapperText_unique {first second : List Wrapper} {rest other : List Char}
    (firstLegible : ∀ wrapper ∈ first, wrapper.Legible)
    (secondLegible : ∀ wrapper ∈ second, wrapper.Legible)
    (restEnds : Ends rest) (otherEnds : Ends other)
    (equal : wrapperText first ++ rest = wrapperText second ++ other) :
    first = second ∧ rest = other := by
  have noDot {chars after : List Char} (ends : Ends chars) : chars ≠ '.' :: after := by
    rintro rfl
    exact ends
  induction first generalizing second with
  | nil =>
      cases second with
      | nil => exact ⟨rfl, equal⟩
      | cons head tail =>
          cases head <;>
            exact (noDot restEnds (by simpa [wrapperText, Wrapper.source] using equal)).elim
  | cons head tail ih =>
      rw [List.forall_mem_cons] at firstLegible
      cases second with
      | nil =>
          cases head <;>
            exact (noDot otherEnds (by simpa [wrapperText, Wrapper.source] using equal.symm)).elim
      | cons otherHead otherTail =>
          rw [List.forall_mem_cons] at secondLegible
          cases head with
          | nullable =>
              cases otherHead with
              | nullable =>
                  have parts := ih firstLegible.2 secondLegible.2
                    (by simpa [wrapperText, Wrapper.source] using equal)
                  exact ⟨congrArg _ parts.1, parts.2⟩
              | withDefault literal => simp [wrapperText, Wrapper.source] at equal
          | withDefault literal =>
              cases otherHead with
              | nullable => simp [wrapperText, Wrapper.source] at equal
              | withDefault otherLiteral =>
                  have bodies :
                      literal.source.toList ++ ')' :: (wrapperText tail ++ rest) =
                        otherLiteral.source.toList ++
                          ')' :: (wrapperText otherTail ++ other) := by
                    simpa [wrapperText, Wrapper.source] using equal
                  have literals :=
                    Literal.source_unique firstLegible.1 secondLegible.1 bodies
                  have parts := ih firstLegible.2 secondLegible.2 literals.2
                  exact ⟨by rw [literals.1, parts.1], parts.2⟩

/-- What may follow a head: no letter that would lengthen a name, and not what
makes a number a whole number. -/
def Continues (chars : List Char) : Prop :=
  Leaves isWordChar chars ∧ chars.take 2 ≠ ['.', 'i']

theorem continues_wrapperText (wrappers : List Wrapper) {rest : List Char}
    (ends : Ends rest) : Continues (wrapperText wrappers ++ rest) := by
  cases wrappers with
  | nil =>
      unfold Ends at ends
      split at ends
      · exact ⟨leaves_cons (by decide), by simp [wrapperText]⟩
      · exact ⟨leaves_cons (by decide), by simp [wrapperText]⟩
      · exact ends.elim
  | cons wrapper wrappers =>
      cases wrapper with
      | nullable =>
          exact ⟨by simp [wrapperText, Wrapper.source, Leaves]; decide,
            by simp [wrapperText, Wrapper.source]⟩
      | withDefault literal =>
          exact ⟨by simp [wrapperText, Wrapper.source, Leaves]; decide,
            by simp [wrapperText, Wrapper.source]⟩

namespace Validator

/-- The validator starts with a keyword: it is no name and has no wrapper
outside. -/
def IsKeyword : Validator → Prop
  | reference _ | nullable _ | withDefault _ _ => False
  | _ => True

/-- Keywords are called on the library. -/
private theorem keyword_source {validator : Validator} (keyword : validator.IsKeyword) :
    ∃ chars, validator.source.toList = 'z' :: '.' :: chars := by
  rcases validator with _ | _ | _ | _ | (_ | _) | _ | _ | _ | _ | _ | _ | _ <;>
    simp [source, IsKeyword] at keyword ⊢

private theorem reference_inside {name : String} (word : IsWord name) :
    ∀ c ∈ (reference name).source.toList, isWordChar c = true := by
  intro c member
  simp only [source, schemaName, String.toList_append, List.mem_append] at member
  rcases member with member | member
  · exact word.2 c member
  · have letters : ∀ c ∈ "Schema".toList, isWordChar c = true :=
      List.all_eq_true.mp (by decide)
    exact letters c member

private theorem reference_ne_keyword {name : String} (word : IsWord name)
    {rest chars : List Char} (continues : Continues rest) :
    (reference name).source.toList ++ rest ≠ 'z' :: '.' :: chars := by
  intro equal
  have letter : ∀ c ∈ ['z'], isWordChar c = true := List.all_eq_true.mp (by decide)
  have parts := span_unique (reference_inside word) letter continues.1
    (leaves_cons (by decide)) equal
  have lengths := congrArg List.length parts.1
  simp [source, schemaName] at lengths

/-- A validator that starts with a keyword is read in one way, or both are
arrays. -/
private theorem keyword_unique {first second : Validator} {rest other : List Char}
    (firstKeyword : first.IsKeyword) (secondKeyword : second.IsKeyword)
    (firstLegible : first.Legible) (secondLegible : second.Legible)
    (restContinues : Continues rest) (otherContinues : Continues other)
    (equal : first.source.toList ++ rest = second.source.toList ++ other) :
    (first = second ∧ rest = other) ∨
      ∃ item otherItem, first = array item ∧ second = array otherItem ∧
        item.source.toList ++ ')' :: rest = otherItem.source.toList ++ ')' :: other := by
  rcases first with _ | _ | _ | _ | (_ | _) | _ | _ | className | _ | _ | _ | _ <;>
    rcases second with _ | _ | _ | _ | (_ | _) | _ | _ | otherName | _ | _ | _ | _ <;>
      simp [source, IsKeyword] at equal firstKeyword secondKeyword ⊢
  case int.number => simp [← equal, Continues] at otherContinues
  case number.int => simp [equal, Continues] at restContinues
  case instanceOf.instanceOf => exact free_unique firstLegible secondLegible equal
  case array.array => exact .inr equal
  all_goals exact equal

/-- The validator has no wrapper outside. -/
def IsHead : Validator → Prop
  | nullable _ | withDefault _ _ => False
  | _ => True

private theorem IsHead.name_or_keyword {validator : Validator} (head : validator.IsHead) :
    (∃ name, validator = reference name) ∨ validator.IsKeyword := by
  cases validator with
  | reference name => exact .inl ⟨name, rfl⟩
  | nullable base => exact head.elim
  | withDefault base literal => exact head.elim
  | _ => exact .inr trivial

/-- A head is read in one way, or both are arrays. -/
private theorem head_unique {first second : Validator} {rest other : List Char}
    (firstHead : first.IsHead) (secondHead : second.IsHead)
    (firstLegible : first.Legible) (secondLegible : second.Legible)
    (restContinues : Continues rest) (otherContinues : Continues other)
    (equal : first.source.toList ++ rest = second.source.toList ++ other) :
    (first = second ∧ rest = other) ∨
      ∃ item otherItem, first = array item ∧ second = array otherItem ∧
        item.source.toList ++ ')' :: rest = otherItem.source.toList ++ ')' :: other := by
  rcases firstHead.name_or_keyword with ⟨name, rfl⟩ | firstKeyword
  · rcases secondHead.name_or_keyword with ⟨otherName, rfl⟩ | secondKeyword
    · have parts := span_unique (reference_inside firstLegible)
        (reference_inside secondLegible) restContinues.1 otherContinues.1 equal
      have names : name = otherName := by
        simpa [schemaName, source, String.toList_inj] using parts.1
      exact .inl ⟨congrArg reference names, parts.2⟩
    · obtain ⟨chars, spelled⟩ := keyword_source secondKeyword
      rw [spelled] at equal
      exact (reference_ne_keyword firstLegible restContinues equal).elim
  · rcases secondHead.name_or_keyword with ⟨otherName, rfl⟩ | secondKeyword
    · obtain ⟨chars, spelled⟩ := keyword_source firstKeyword
      rw [spelled] at equal
      exact (reference_ne_keyword secondLegible otherContinues equal.symm).elim
    · exact keyword_unique firstKeyword secondKeyword firstLegible secondLegible
        restContinues otherContinues equal

theorem source_wrapAll (base : Validator) (wrappers : List Wrapper) :
    (base.wrapAll wrappers).source.toList = base.source.toList ++ wrapperText wrappers := by
  induction wrappers generalizing base with
  | nil => simp [wrapAll, wrapperText]
  | cons wrapper wrappers ih =>
      refine (ih (wrapper.apply base)).trans ?_
      cases wrapper <;> simp [Wrapper.apply, Wrapper.source, source, wrapperText]

theorem legible_wrapAll (base : Validator) (wrappers : List Wrapper) :
    (base.wrapAll wrappers).Legible ↔
      base.Legible ∧ ∀ wrapper ∈ wrappers, wrapper.Legible := by
  induction wrappers generalizing base with
  | nil => simp [wrapAll]
  | cons wrapper wrappers ih =>
      refine (ih (wrapper.apply base)).trans ?_
      cases wrapper <;>
        simp [Wrapper.apply, Wrapper.Legible, Legible, and_assoc]

/-- Every validator is a head within wrappers. -/
theorem exists_head (validator : Validator) :
    ∃ (head : Validator) (wrappers : List Wrapper),
      head.IsHead ∧ validator = head.wrapAll wrappers := by
  have extend (base : Validator) (wrapper : Wrapper)
      (found : ∃ (head : Validator) (wrappers : List Wrapper),
        head.IsHead ∧ base = head.wrapAll wrappers) :
      ∃ (head : Validator) (wrappers : List Wrapper),
        head.IsHead ∧ wrapper.apply base = head.wrapAll wrappers := by
    obtain ⟨head, wrappers, isHead, rfl⟩ := found
    exact ⟨head, wrappers ++ [wrapper], isHead, by simp [wrapAll]⟩
  induction validator with
  | nullable base ih => exact extend base .nullable ih
  | withDefault base literal ih => exact extend base (.withDefault literal) ih
  | _ => exact ⟨_, [], by trivial, rfl⟩

/-- The validator and what ends it are read in one way. -/
def ReadsBack (validator : Validator) : Prop :=
  ∀ (second : Validator) (rest other : List Char), validator.Legible → second.Legible →
    Ends rest → Ends other →
    validator.source.toList ++ rest = second.source.toList ++ other →
      validator = second ∧ rest = other

/-- A head within wrappers reads back if the items do that it is an array of. -/
private theorem readsBack_of_head {head : Validator} (isHead : head.IsHead)
    (items : ∀ item, head = array item → item.ReadsBack) (wrappers : List Wrapper) :
    (head.wrapAll wrappers).ReadsBack := by
  intro second rest other legible secondLegible restEnds otherEnds equal
  obtain ⟨otherHead, others, otherIsHead, rfl⟩ := second.exists_head
  rw [legible_wrapAll] at legible secondLegible
  rw [source_wrapAll, source_wrapAll, List.append_assoc, List.append_assoc] at equal
  have wrappersUnique (same : wrapperText wrappers ++ rest = wrapperText others ++ other) :=
    wrapperText_unique legible.2 secondLegible.2 restEnds otherEnds same
  rcases head_unique isHead otherIsHead legible.1 secondLegible.1
    (continues_wrapperText wrappers restEnds) (continues_wrapperText others otherEnds) equal with
    ⟨rfl, tails⟩ | ⟨item, otherItem, rfl, rfl, itemTexts⟩
  · obtain ⟨rfl, rests⟩ := wrappersUnique tails
    exact ⟨rfl, rests⟩
  · obtain ⟨rfl, tails⟩ := items item rfl otherItem _ _ legible.1 secondLegible.1
      (by trivial) (by trivial) itemTexts
    obtain ⟨rfl, rests⟩ := wrappersUnique (List.cons.inj tails).2
    exact ⟨rfl, rests⟩

theorem readsBack_wrapAll (validator : Validator) (wrappers : List Wrapper) :
    (validator.wrapAll wrappers).ReadsBack := by
  -- Wrappers of the validator join those around it, which is what the
  -- induction hypothesis is about; items of arrays are read without any.
  induction validator generalizing wrappers with
  | nullable base ih => exact ih (.nullable :: wrappers)
  | withDefault base literal ih => exact ih (.withDefault literal :: wrappers)
  | array item ih =>
      have items (other : Validator) (same : array item = array other) : other.ReadsBack :=
        Validator.array.inj same ▸ ih []
      refine readsBack_of_head ?_ items wrappers
      trivial
  | _ =>
      apply readsBack_of_head
      · trivial
      · nofun

/-- A validator that names only words reads back. -/
theorem readsBack (validator : Validator) : validator.ReadsBack :=
  validator.readsBack_wrapAll []

/-- Different validators that name only words have different sources. -/
theorem source_injective {first second : Validator} (firstLegible : first.Legible)
    (secondLegible : second.Legible) (equal : first.source = second.source) :
    first = second :=
  (first.readsBack second [','] [','] firstLegible secondLegible trivial trivial
    (by rw [equal])).1

end Validator

end PrismaZod
