import Mathlib.Algebra.Group.Int.Defs
import Mathlib.Data.List.Forall2
import PrismaZod.Json.Tree
import PrismaZod.Proofs.Table.Order

/-!
# Values within limits

Whatever is read from a text has sorted tables, whole numbers that fit 64 bits,
and arrays and objects nested no deeper than the limit it was read under.
-/

namespace PrismaZod

/-- A whole number fits a signed or an unsigned word of 64 bits. -/
def Number.Fits : Number → Prop
  | integer value => -(2 ^ 63) ≤ value ∧ value < 2 ^ 64
  | float _ => True

namespace Json

/-- The value can be held by a text that is nested no deeper than a limit. -/
def Within : Nat → Json → Prop
  | _, null => True
  | _, boolean _ => True
  | _, number value => value.Fits
  | _, string _ => True
  | 0, array _ => False
  | 0, object _ => False
  | limit + 1, array items => ∀ item ∈ items, Within limit item
  | limit + 1, object members =>
      Table.Sorted members ∧ ∀ member ∈ members, Within limit member.2

/-- The value holds no double, at any depth. -/
inductive Whole : Json → Prop
  | null : Whole null
  | boolean (value : Bool) : Whole (boolean value)
  | integer (value : Int) : Whole (number (.integer value))
  | string (value : String) : Whole (string value)
  | array {items : List Json} : (∀ item ∈ items, Whole item) → Whole (array items)
  | object {members : List (String × Json)} :
      (∀ member ∈ members, Whole member.2) → Whole (object members)

theorem within_string (limit : Nat) (value : String) : (string value).Within limit := by
  cases limit <;> exact trivial

theorem within_ofList {limit : Nat} {entries : List (String × Json)}
    (each : ∀ entry ∈ entries, entry.2.Within limit) :
    (object (Table.ofList entries)).Within (limit + 1) := by
  obtain ⟨sorted, known⟩ := Table.sorted_ofList entries
  exact ⟨sorted, fun member among => each member (known member among)⟩

end Json

open Json

theorem map_eq_ok_iff {ε α β : Type} {next : α → β} {result : Except ε α} {value : β} :
    result.map next = .ok value ↔ ∃ inner, result = .ok inner ∧ next inner = value := by
  cases result <;> simp [Except.map]

theorem bind_eq_ok_iff {ε α β : Type} {result : Except ε α} {next : α → Except ε β} {value : β} :
    result >>= next = .ok value ↔ ∃ inner, result = .ok inner ∧ next inner = .ok value := by
  cases result <;> simp [bind, Except.bind]

theorem mapM_eq_some_iff {α β : Type} {read : α → Option β} {items : List α} {values : List β} :
    items.mapM read = some values ↔
      List.Forall₂ (fun item value => read item = some value) items values := by
  induction items generalizing values with
  | nil => simp [eq_comm]
  | cons item items ih =>
      rw [List.mapM_cons, List.forall₂_cons_left_iff]
      constructor
      · intro all
        obtain ⟨value, first, rest⟩ := Option.bind_eq_some_iff.mp all
        obtain ⟨others, further, result⟩ := Option.bind_eq_some_iff.mp rest
        cases result
        exact ⟨value, others, first, ih.mp further, rfl⟩
      · rintro ⟨value, others, first, further, rfl⟩
        rw [first, ih.mpr further]
        rfl

theorem NumberLiteral.collect_lt {word : Nat} (fits : word < 2 ^ 64) (digits : List Nat) :
    (collect word digits).1 < 2 ^ 64 := by
  induction digits generalizing word with
  | nil => exact fits
  | cons digit digits ih =>
      rw [collect]
      split
      · rename_i stillFits
        exact ih stillFits
      · exact fits

theorem NumberLiteral.fits_of_value? {literal : NumberLiteral} {value : Number}
    (read : literal.value? = some value) : value.Fits := by
  have double : literal.magnitude?.map (fun magnitude =>
      Number.float ⟨literal.negative, magnitude⟩) = some value → value.Fits := by
    intro isDouble
    obtain ⟨magnitude, -, rfl⟩ := Option.map_eq_some_iff.mp isDouble
    exact trivial
  have bounded := collect_lt (by decide : 0 < 2 ^ 64) literal.whole
  rw [value?] at read
  split at read
  · split at read
    · cases read
      simp only [Number.Fits]
      omega
    · split at read
      · rename_i negative
        have small : (collect 0 literal.whole).1 ≤ 2 ^ 63 := negative.2
        cases read
        simp only [Number.Fits]
        omega
      · exact double read
  · exact double read

namespace Json.Tree

theorem value?_array_eq_some_iff {limit : Nat} {items : List Tree} {value : Json} :
    (array items).value? (limit + 1) = some value ↔
      ∃ values, List.Forall₂ (fun item value => Tree.value? limit item = some value) items values ∧
        value = .array values := by
  rw [Tree.value?, Option.map_eq_some_iff]
  simp only [mapM_eq_some_iff, @eq_comm _ (Json.array _)]

theorem value?_object_eq_some_iff {limit : Nat} {members : List (List Piece × Tree)}
    {value : Json} :
    (object members).value? (limit + 1) = some value ↔
      ∃ entries, List.Forall₂ (fun member (entry : String × Json) =>
          string? member.1 = some entry.1 ∧ Tree.value? limit member.2 = some entry.2)
          members entries ∧
        value = .object (Table.ofList entries) := by
  have readsMember (member : List Piece × Tree) (entry : String × Json) :
      (do
        let key ← string? member.1
        let value ← Tree.value? limit member.2
        pure (key, value) : Option (String × Json)) = some entry ↔
        string? member.1 = some entry.1 ∧ Tree.value? limit member.2 = some entry.2 := by
    obtain ⟨key, held⟩ := entry
    cases string? member.1 <;> cases Tree.value? limit member.2 <;> simp
  rw [Tree.value?]
  constructor
  · intro read
    obtain ⟨entries, all, result⟩ := Option.bind_eq_some_iff.mp read
    cases result
    exact ⟨entries, (mapM_eq_some_iff.mp all).imp fun member entry => (readsMember member entry).mp,
      rfl⟩
  · rintro ⟨entries, all, rfl⟩
    have each := mapM_eq_some_iff.mpr
      (all.imp fun member entry => (readsMember member entry).mpr)
    rw [each]
    rfl

/-- What is read under a limit is within it. -/
theorem within_of_value? {limit : Nat} {tree : Tree} {value : Json}
    (read : tree.value? limit = some value) : value.Within limit := by
  have ofNumber {limit : Nat} {literal : NumberLiteral} {value : Json}
      (read : literal.value?.map Json.number = some value) : value.Within limit := by
    obtain ⟨number, isNumber, rfl⟩ := Option.map_eq_some_iff.mp read
    cases limit <;> exact NumberLiteral.fits_of_value? isNumber
  have ofText {limit : Nat} {pieces : List Piece} {value : Json}
      (read : (string? pieces).map Json.string = some value) : value.Within limit := by
    obtain ⟨text, -, rfl⟩ := Option.map_eq_some_iff.mp read
    exact within_string limit text
  induction limit generalizing tree value with
  | zero =>
      cases tree with
      | null => cases read; exact trivial
      | boolean flag => cases read; exact trivial
      | number literal => exact ofNumber read
      | text pieces => exact ofText read
      | array items => cases read
      | object members => cases read
  | succ limit ih =>
      cases tree with
      | null => cases read; exact trivial
      | boolean flag => cases read; exact trivial
      | number literal => exact ofNumber read
      | text pieces => exact ofText read
      | array items =>
          obtain ⟨values, all, rfl⟩ := value?_array_eq_some_iff.mp read
          have each : List.Forall₂ (fun value item =>
              value.Within limit ∧ Tree.value? limit item = some value) values items :=
            all.flip.imp fun value item isValue => ⟨ih isValue, isValue⟩
          exact ((List.forall₂_and_left _ _).mp each).1
      | object members =>
          obtain ⟨entries, all, rfl⟩ := value?_object_eq_some_iff.mp read
          have each : List.Forall₂ (fun (entry : String × Json) member =>
              entry.2.Within limit ∧ Tree.value? limit member.2 = some entry.2)
              entries members :=
            all.flip.imp fun entry member isEntry => ⟨ih isEntry.2, isEntry.2⟩
          exact within_ofList ((List.forall₂_and_left _ _).mp each).1

end Json.Tree

end PrismaZod
