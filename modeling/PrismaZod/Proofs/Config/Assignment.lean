import PrismaZod.Assignment
import PrismaZod.Proofs.Text.Trimming

/-!
# What texts assign

The first equals sign of a text separates a key from a value, and blanks around
either are padding.  A value may be empty and may hold further equals signs.  A text
assigns nothing if it has no equals sign, or only blanks before the first one.
-/

namespace PrismaZod

open Text

section Splitting

variable {mark : Char} {chars before after : List Char}

theorem splitOnce_eq_none_iff : splitOnce mark chars = none ↔ mark ∉ chars := by
  induction chars with
  | nil => simp [splitOnce]
  | cons head rest ih =>
      by_cases isMark : head = mark
      · simp [splitOnce, isMark]
      · simp [splitOnce, isMark, Ne.symm isMark, ih]

theorem splitOnce_append_cons (free : mark ∉ before) (after : List Char) :
    splitOnce mark (before ++ mark :: after) = some (before, after) := by
  induction before with
  | nil => simp [splitOnce]
  | cons head before ih =>
      simp only [List.mem_cons, not_or] at free
      simp [splitOnce, Ne.symm free.1, ih free.2]

theorem eq_append_cons_of_splitOnce (split : splitOnce mark chars = some (before, after)) :
    mark ∉ before ∧ chars = before ++ mark :: after := by
  induction chars generalizing before with
  | nil => cases split
  | cons head rest ih =>
      rw [splitOnce] at split
      by_cases isMark : head = mark
      · rw [if_pos isMark] at split
        cases split
        exact ⟨List.not_mem_nil, by rw [isMark]; rfl⟩
      · rw [if_neg isMark] at split
        obtain ⟨⟨first, second⟩, splitRest, same⟩ := Option.map_eq_some_iff.mp split
        cases same
        obtain ⟨free, rfl⟩ := ih splitRest
        exact ⟨by simp [Ne.symm isMark, free], rfl⟩

/-- What comes before the first mark has no mark. -/
theorem takeWhile_of_splitOnce (split : splitOnce mark chars = some (before, after)) :
    chars.takeWhile (· != mark) = before := by
  obtain ⟨free, rfl⟩ := eq_append_cons_of_splitOnce split
  refine takeWhile_span (fun c member => ?_) (leaves_cons (by simp))
  simpa using ne_of_mem_of_not_mem member free

end Splitting

/-- The text is a key, an equals sign and a value, with blanks around each. -/
structure Assigns (text key value : String) : Prop where
  named : key ≠ ""
  free : Free '=' key
  trimmedKey : Trimmed key.toList
  trimmedValue : Trimmed value.toList
  spelled : ∃ w₁ w₂ w₃ w₄ : String, (∀ w ∈ [w₁, w₂, w₃, w₄], isBlankText w = true) ∧
    text = w₁ ++ key ++ w₂ ++ "=" ++ w₃ ++ value ++ w₄

variable {text key value : String}

theorem Assigns.split (assigns : Assigns text key value) :
    ∃ before after, splitOnce '=' text.toList = some (before, after) ∧
      trimChars before = key.toList ∧ trimChars after = value.toList := by
  obtain ⟨w₁, w₂, w₃, w₄, blank, rfl⟩ := assigns.spelled
  simp only [List.forall_mem_cons, isBlankText_iff] at blank
  obtain ⟨blank₁, blank₂, blank₃, blank₄, -⟩ := blank
  -- No padding hides an equals sign, so the first one is the one between key and value.
  have notBlank : isBlank '=' = false := by decide
  have free : '=' ∉ w₁.toList ++ key.toList ++ w₂.toList := by
    have outside {w : String} (blank : ∀ c ∈ w.toList, isBlank c = true) : '=' ∉ w.toList := by
      intro member
      simp [blank _ member] at notBlank
    have freeKey : '=' ∉ key.toList := assigns.free
    simp [outside blank₁, outside blank₂, freeKey]
  refine ⟨w₁.toList ++ key.toList ++ w₂.toList, w₃.toList ++ value.toList ++ w₄.toList, ?_, ?_, ?_⟩
  · rw [← splitOnce_append_cons free]
    simp [String.toList_append, List.append_assoc]
  · exact trimChars_eq_iff.mpr ⟨assigns.trimmedKey, _, _, blank₁, blank₂, rfl⟩
  · exact trimChars_eq_iff.mpr ⟨assigns.trimmedValue, _, _, blank₃, blank₄, rfl⟩

theorem assigns_of_splitOnce {before after : List Char}
    (split : splitOnce '=' text.toList = some (before, after)) (named : trimChars before ≠ []) :
    Assigns text (.ofList (trimChars before)) (.ofList (trimChars after)) := by
  obtain ⟨free, spelled⟩ := eq_append_cons_of_splitOnce split
  obtain ⟨trimmed, w₁, w₂, blank₁, blank₂, padded⟩ :=
    trimChars_eq_iff.mp (Eq.refl (trimChars before))
  obtain ⟨trimmedAfter, w₃, w₄, blank₃, blank₄, paddedAfter⟩ :=
    trimChars_eq_iff.mp (Eq.refl (trimChars after))
  refine {
    named := by simpa using named
    free := ?_
    trimmedKey := by rwa [String.toList_ofList]
    trimmedValue := by rwa [String.toList_ofList]
    spelled := ⟨.ofList w₁, .ofList w₂, .ofList w₃, .ofList w₄, ?_, ?_⟩ }
  · intro member
    rw [String.toList_ofList] at member
    exact free (padded ▸ by simp [member])
  · simp only [List.forall_mem_cons, isBlankText_iff, String.toList_ofList]
    exact ⟨blank₁, blank₂, blank₃, blank₄, by simp⟩
  · apply String.toList_injective
    calc
      text.toList = before ++ '=' :: after := spelled
      _ = (w₁ ++ trimChars before ++ w₂) ++ '=' :: (w₃ ++ trimChars after ++ w₄) := by
        rw [← padded, ← paddedAfter]
      _ = _ := by simp [String.toList_append, List.append_assoc]

theorem parseAssignment_of_assigns (assigns : Assigns text key value) :
    parseAssignment text = .ok (key, value) := by
  obtain ⟨before, after, split, isKey, isValue⟩ := assigns.split
  rw [parseAssignment, split]
  dsimp only
  rw [isKey, isValue]
  cases chars : key.toList with
  | nil => exact absurd (String.toList_eq_nil_iff.mp chars) assigns.named
  | cons first rest =>
      dsimp only
      rw [← chars, String.ofList_toList, String.ofList_toList]

/-- Every text assigns a value to a key, or is at fault in one of two ways. -/
theorem parseAssignment_cases (text : String) :
    ('=' ∉ text.toList ∧ parseAssignment text = .error (.noEquals text)) ∨
      '=' ∈ text.toList ∧
        ((∀ c ∈ text.toList.takeWhile (· != '='), isBlank c = true) ∧
            parseAssignment text = .error (.noKey text) ∨
          (¬∀ c ∈ text.toList.takeWhile (· != '='), isBlank c = true) ∧
            ∃ key value, Assigns text key value ∧ parseAssignment text = .ok (key, value)) := by
  cases split : splitOnce '=' text.toList with
  | none =>
      refine .inl ⟨splitOnce_eq_none_iff.mp split, ?_⟩
      rw [parseAssignment, split]
  | some parts =>
      obtain ⟨before, after⟩ := parts
      have marked : '=' ∈ text.toList := by
        rw [(eq_append_cons_of_splitOnce split).2]
        simp
      rw [takeWhile_of_splitOnce split, ← trimChars_eq_nil_iff]
      refine .inr ⟨marked, ?_⟩
      by_cases nameless : trimChars before = []
      · refine .inl ⟨nameless, ?_⟩
        rw [parseAssignment, split]
        dsimp only
        rw [nameless]
      · have assigns := assigns_of_splitOnce split nameless
        exact .inr ⟨nameless, _, _, assigns, parseAssignment_of_assigns assigns⟩

theorem parseAssignment_eq_ok_iff :
    parseAssignment text = .ok (key, value) ↔ Assigns text key value := by
  refine ⟨fun parsed => ?_, parseAssignment_of_assigns⟩
  rcases parseAssignment_cases text with
    ⟨-, faulty⟩ | ⟨-, ⟨-, faulty⟩ | ⟨-, otherKey, otherValue, assigns, same⟩⟩
  · rw [faulty] at parsed
    cases parsed
  · rw [faulty] at parsed
    cases parsed
  · rw [same] at parsed
    cases parsed
    exact assigns

theorem message_noEquals (text : String) :
    (AssignmentFault.noEquals text).message = "expected key=value, got `" ++ text ++ "`" :=
  rfl

theorem message_noKey (text : String) :
    (AssignmentFault.noKey text).message = "missing key in `" ++ text ++ "`" :=
  rfl

theorem message_noEquals_ne_noKey (text : String) :
    (AssignmentFault.noEquals text).message ≠ (AssignmentFault.noKey text).message := by
  rw [message_noEquals, message_noKey]
  intro same
  have firsts := congrArg (·.toList.head?) same
  simp [String.toList_append] at firsts

/-- A text assigns a value to a key just if it is these two and an equals sign
between them, padded with blanks.  Otherwise the message tells that there is no
equals sign, or that there are only blanks before the first one. -/
theorem parseAssignment_exact (text : String) :
    (∀ key value, parseAssignment text = .ok (key, value) ↔ Assigns text key value) ∧
      ((parseAssignment text).mapError AssignmentFault.message =
          .error ("expected key=value, got `" ++ text ++ "`") ↔ '=' ∉ text.toList) ∧
      ((parseAssignment text).mapError AssignmentFault.message =
          .error ("missing key in `" ++ text ++ "`") ↔
        '=' ∈ text.toList ∧ ∀ c ∈ text.toList.takeWhile (· != '='), isBlank c = true) := by
  refine ⟨fun key value => parseAssignment_eq_ok_iff, ?_⟩
  rw [← message_noEquals, ← message_noKey]
  have apart := message_noEquals_ne_noKey text
  rcases parseAssignment_cases text with
    ⟨unmarked, faulty⟩ | ⟨marked, ⟨blank, faulty⟩ | ⟨named, key, value, -, parsed⟩⟩
  · simp [faulty, unmarked, Except.mapError, apart]
  · simpa [faulty, marked, Except.mapError, apart.symm] using blank
  · simp [parsed, marked, named, Except.mapError]

example : parseAssignment "\u2003output = a=b\t" = .ok ("output", "a=b") := by
  decide +kernel

end PrismaZod
