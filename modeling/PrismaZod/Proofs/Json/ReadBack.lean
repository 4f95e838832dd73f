import PrismaZod.Proofs.Decimal.Characters
import PrismaZod.Proofs.Json.Integers

/-!
# Reading back what was written

The text of a value within a limit that holds no double is one line, and reading
it under this limit gives the value.
-/

namespace PrismaZod.Json

/-- No character of the text is a control, a line break in particular. -/
def OneLine (text : String) : Prop :=
  ∀ c ∈ text.toList, 0x20 ≤ c.toNat

/-- The text is one line and is read as the value under a limit. -/
structure Writes (limit : Nat) (text : String) (value : Json) : Prop where
  line : OneLine text
  reads : ∃ tree, Spelled text tree ∧ tree.value? limit = some value

/-- The text is that of an entry of an object. -/
def WritesMember (limit : Nat) (text : String) (entry : String × Json) : Prop :=
  ∃ value, text = memberText entry.1 value ∧ Writes limit value entry.2

instance (text : String) : Decidable (OneLine text) :=
  List.decidableBAll _ text.toList

/-! ## Lines -/

theorem oneLine_append {first second : String} :
    OneLine (first ++ second) ↔ OneLine first ∧ OneLine second := by
  simp [OneLine, or_imp, forall_and]

theorem oneLine_intercalate {separator : String} (line : OneLine separator)
    {texts : List String} (each : ∀ text ∈ texts, OneLine text) :
    OneLine (separator.intercalate texts) := by
  induction texts with
  | nil => simp [OneLine]
  | cons text texts ih =>
      obtain ⟨first, rest⟩ := List.forall_mem_cons.mp each
      cases texts with
      | nil => simpa using first
      | cons next texts =>
          rw [String.intercalate_cons_cons, oneLine_append, oneLine_append]
          exact ⟨⟨first, line⟩, ih rest⟩

theorem oneLine_stringText (value : String) : OneLine (stringText value) := by
  have escaped (c : Char) : (stringChar c).all (fun d => decide (0x20 ≤ d.toNat)) = true := by
    by_cases named : c ∈ ['"', '\\', '\x08', '\t', '\n', '\x0c', '\r']
    · simp only [List.mem_cons, List.not_mem_nil, or_false] at named
      rcases named with rfl | rfl | rfl | rfl | rfl | rfl | rfl <;> decide
    · simp only [List.mem_cons, List.not_mem_nil, or_false, not_or] at named
      have digits : ∀ digit < 16, 0x20 ≤ (Nat.digitChar digit).toNat := by decide
      by_cases control : c.toNat < 0x20
      · have high := digits (c.toNat / 16) (by omega)
        have low := digits (c.toNat % 16) (by omega)
        simp [stringChar, named, control, high, low]
      · have shown : 0x20 ≤ c.toNat := Nat.not_lt.mp control
        simp [stringChar, named, control, shown]
  intro d member
  rw [stringText, String.toList_ofList, List.mem_cons, List.mem_append, List.mem_flatMap,
    List.mem_singleton] at member
  rcases member with rfl | ⟨c, -, inside⟩ | rfl
  · decide
  · exact of_decide_eq_true (List.all_eq_true.mp (escaped c) d inside)
  · decide

theorem oneLine_repr (value : Int) : OneLine value.repr := by
  intro c member
  have numeric : isNumberChar c = true := Number.isNumeric_text (.integer value) c member
  simp only [isNumberChar, Char.isDigit, Bool.or_eq_true, beq_iff_eq] at numeric
  rcases numeric with (((digit | rfl) | rfl) | rfl) | rfl
  · simp only [Bool.and_eq_true, decide_eq_true_eq, ge_iff_le, UInt32.le_iff_toNat_le] at digit
    exact Nat.le_trans (by decide) digit.1
  all_goals decide

/-! ## Values -/

theorem read?_of_writes {text : String} {value : Json} (writes : Writes nestingLimit text value) :
    read? text = some value := by
  obtain ⟨tree, spelled, isValue⟩ := writes.reads
  rw [read?, ofText?_of_spelled spelled, Option.bind_some, isValue]

variable {limit : Nat}

theorem writes_stringText (limit : Nat) (value : String) :
    Writes limit (stringText value) (.string value) where
  line := oneLine_stringText value
  reads := by
    refine ⟨.text (pieces value), spelled_stringText value, ?_⟩
    cases limit <;> simp [Tree.value?, string?_pieces]

theorem writes_repr (limit : Nat) {value : Int} (fits : (Number.integer value).Fits) :
    Writes limit value.repr (.number (.integer value)) where
  line := oneLine_repr value
  reads := by
    refine ⟨.number (.ofInt value), spelled_repr value, ?_⟩
    cases limit <;> simp [Tree.value?, NumberLiteral.value?_ofInt fits]

theorem writes_word {text : String} {first : Char} {rest : List Char} {token : Token}
    {tree : Tree} {value : Json} (chars : text.toList = first :: rest)
    (lower : (first :: rest).all Char.isLower = true)
    (spelled : Scan.wordToken? (first :: rest) = some token)
    (scalar : Reading.scalar? token = some tree) (isValue : tree.value? limit = some value) :
    Writes limit text value where
  line := by
    intro c member
    rw [chars] at member
    have letter := Scan.toNat_of_isLower (List.all_eq_true.mp lower c member)
    exact Nat.le_trans (by decide) letter.1
  reads := by
    have letters := spells_word (List.all_eq_true.mp lower) spelled
    exact ⟨tree, ⟨[token], chars ▸ letters, builds_scalar scalar⟩, isValue⟩

theorem writes_null (limit : Nat) : Writes limit (text .null) .null := by
  refine writes_word (rfl : "null".toList = ['n', 'u', 'l', 'l']) (by decide) rfl rfl ?_
  cases limit <;> rfl

theorem writes_boolean (limit : Nat) (value : Bool) :
    Writes limit (text (.boolean value)) (.boolean value) := by
  cases value with
  | false =>
      refine writes_word (rfl : "false".toList = ['f', 'a', 'l', 's', 'e']) (by decide) rfl rfl ?_
      cases limit <;> rfl
  | true =>
      refine writes_word (rfl : "true".toList = ['t', 'r', 'u', 'e']) (by decide) rfl rfl ?_
      cases limit <;> rfl

theorem writes_array {texts : List String} {values : List Json}
    (each : List.Forall₂ (Writes limit) texts values) :
    Writes (limit + 1) ("[" ++ ",".intercalate texts ++ "]") (.array values) where
  line := by
    have lines := ((List.forall₂_and_left _ _).mp
      (each.imp fun text value writes => ⟨writes.line, writes⟩)).1
    rw [oneLine_append, oneLine_append]
    exact ⟨⟨by decide, oneLine_intercalate (by decide) lines⟩, by decide⟩
  reads := by
    obtain ⟨trees, spelled, isValue⟩ := exists_middle
      (each.imp fun text value writes => writes.reads)
    exact ⟨.array trees, spelled_array spelled,
      Tree.value?_array_eq_some_iff.mpr ⟨values, isValue, rfl⟩⟩

/-- The value of an object has its entries in the order of a table. -/
theorem writes_object {texts : List String} {entries : List (String × Json)}
    (each : List.Forall₂ (WritesMember limit) texts entries) :
    Writes (limit + 1) (objectText texts) (.object (Table.ofList entries)) where
  line := by
    have ofMember (text : String) (entry : String × Json)
        (writes : WritesMember limit text entry) : OneLine text := by
      obtain ⟨value, rfl, writes⟩ := writes
      rw [memberText, oneLine_append, oneLine_append]
      exact ⟨⟨oneLine_stringText entry.1, by decide⟩, writes.line⟩
    have lines := ((List.forall₂_and_left _ _).mp
      (each.imp fun text entry writes => ⟨ofMember text entry writes, writes⟩)).1
    rw [objectText, oneLine_append, oneLine_append]
    exact ⟨⟨by decide, oneLine_intercalate (by decide) lines⟩, by decide⟩
  reads := by
    have ofMember (text : String) (entry : String × Json)
        (writes : WritesMember limit text entry) :
        ∃ member : List Piece × Tree, SpelledMember text member ∧
          string? member.1 = some entry.1 ∧ member.2.value? limit = some entry.2 := by
      obtain ⟨value, rfl, writes⟩ := writes
      obtain ⟨tree, spelled, isValue⟩ := writes.reads
      exact ⟨(pieces entry.1, tree), ⟨entry.1, value, rfl, rfl, spelled⟩,
        string?_pieces entry.1, isValue⟩
    obtain ⟨members, spelled, isEntry⟩ := exists_middle (each.imp ofMember)
    exact ⟨.object members, spelled_object spelled,
      Tree.value?_object_eq_some_iff.mpr ⟨entries, isEntry, rfl⟩⟩

theorem itemTexts_eq_map (items : List Json) : itemTexts items = items.map text := by
  induction items with
  | nil => rfl
  | cons item items ih => rw [itemTexts, ih, List.map_cons]

theorem memberTexts_eq_map (members : List (String × Json)) :
    memberTexts members = members.map fun member => memberText member.1 (text member.2) := by
  induction members with
  | nil => rfl
  | cons member members ih => rw [memberTexts, ih, List.map_cons]

/-- What is within a limit and holds no double is read back from its text. -/
theorem writes_text {limit : Nat} {value : Json} (within : value.Within limit)
    (whole : value.Whole) : Writes limit value.text value := by
  induction limit generalizing value with
  | zero =>
      cases whole with
      | null => exact writes_null 0
      | boolean value => exact writes_boolean 0 value
      | integer value => exact writes_repr 0 within
      | string value => exact writes_stringText 0 value
      | array each => exact within.elim
      | object each => exact within.elim
  | succ limit ih =>
      cases whole with
      | null => exact writes_null (limit + 1)
      | boolean value => exact writes_boolean (limit + 1) value
      | integer value => exact writes_repr (limit + 1) within
      | string value => exact writes_stringText (limit + 1) value
      | @array items each =>
          have all : List.Forall₂ (Writes limit) (items.map text) items := by
            rw [List.forall₂_map_left_iff, List.forall₂_same]
            exact fun item among => ih (within item among) (each item among)
          rw [text, itemTexts_eq_map]
          exact writes_array all
      | @object members each =>
          have all : List.Forall₂ (WritesMember limit)
              (members.map fun member => memberText member.1 (text member.2)) members := by
            rw [List.forall₂_map_left_iff, List.forall₂_same]
            exact fun member among =>
              ⟨text member.2, rfl, ih (within.2 member among) (each member among)⟩
          have written := writes_object all
          rw [Table.ofList_of_sorted within.1] at written
          rw [text, memberTexts_eq_map]
          exact written

end PrismaZod.Json
