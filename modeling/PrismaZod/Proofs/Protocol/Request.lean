import PrismaZod.Proofs.Json.Limits
import PrismaZod.Protocol.Request

/-!
# The parts of a request

The parameters and the id of a request are what its line has under their keys, or
at their places if it is an array, read one level below the limit.  A part that
the line does not have is null.
-/

namespace PrismaZod.Request

open Json

/-- The part that an object has under a key, and an array at a position. -/
def part? (key : String) (position : Nat) : Tree → Option Tree
  | .object members => (members.find? fun member => string? member.1 = some key).map (·.2)
  | .array items => items[position]?
  | _ => none

/-- How reading a member changes the field with a key. -/
def Entered (key : String) (member : List Piece × Tree) (before after : Option Json) : Prop :=
  if string? member.1 = some key then
    before = none ∧ ∃ value, member.2.value? (nestingLimit - 1) = some value ∧ after = some value
  else after = before

theorem readValue_eq_ok {tree : Tree} {value : Json} (read : readValue tree = .ok value) :
    tree.value? (nestingLimit - 1) = some value := by
  rw [readValue] at read
  cases isValue : tree.value? (nestingLimit - 1) with
  | none => rw [isValue] at read; cases read
  | some held => rw [isValue] at read; cases read; rfl

theorem entered_readOnce {key : String} {member : List Piece × Tree}
    (named : string? member.1 = some key) {before after : Option Json}
    (read : readOnce key before (readValue member.2) = .ok after) :
    Entered key member before after := by
  rw [Entered, if_pos named]
  cases before with
  | some held => cases read
  | none =>
      obtain ⟨value, isValue, rfl⟩ := map_eq_ok_iff.mp read
      exact ⟨rfl, value, readValue_eq_ok isValue, rfl⟩

theorem entered_readMember {fields next : Fields} {member : List Piece × Tree}
    (read : readMember fields member = .ok next) :
    Entered "params" member fields.parameters next.parameters ∧
      Entered "id" member fields.id next.id := by
  have other {key : String} {held : Option Json} (named : string? member.1 ≠ some key) :
      Entered key member held held := by
    rw [Entered, if_neg named]
  rw [readMember] at read
  split at read
  · cases read
  · rename_i named
    obtain ⟨value, -, rfl⟩ := map_eq_ok_iff.mp read
    exact ⟨other (by simp [named]), other (by simp [named])⟩
  · rename_i named
    obtain ⟨value, isValue, rfl⟩ := map_eq_ok_iff.mp read
    exact ⟨entered_readOnce named isValue, other (by simp [named])⟩
  · rename_i named
    obtain ⟨value, isValue, rfl⟩ := map_eq_ok_iff.mp read
    exact ⟨other (by simp [named]), entered_readOnce named isValue⟩
  · rename_i key notMethod notParameters notId named
    cases read
    exact ⟨other (by rw [named]; simpa using notParameters),
      other (by rw [named]; simpa using notId)⟩

/-- A field that was held already stays, and one that was not is read from the
first member with its key. -/
theorem field_of_foldlM {key : String} {field : Fields → Option Json}
    (step : ∀ {fields next : Fields} {member : List Piece × Tree},
      readMember fields member = .ok next → Entered key member (field fields) (field next))
    {members : List (List Piece × Tree)} {fields final : Fields}
    (read : members.foldlM readMember fields = .ok final) :
    ∃ found, (part? key 0 (.object members)).mapM (Tree.value? (nestingLimit - 1)) = some found ∧
      field final = (field fields).or found := by
  induction members generalizing fields with
  | nil =>
      cases read
      exact ⟨none, rfl, (Option.or_none).symm⟩
  | cons member members ih =>
      obtain ⟨next, first, rest⟩ := bind_eq_ok_iff.mp read
      obtain ⟨found, isFound, held⟩ := ih rest
      have entered := step first
      rw [Entered] at entered
      split at entered
      · rename_i named
        obtain ⟨unread, value, isValue, isNext⟩ := entered
        refine ⟨some value, ?_, ?_⟩
        · simp [part?, named, isValue]
        · rw [held, isNext, unread, Option.some_or, Option.none_or]
      · rename_i named
        rw [entered] at held
        refine ⟨found, ?_, held⟩
        simpa only [part?, List.find?_cons, named, decide_false] using isFound

theorem parts_of_ofItems {items : List Tree} {request : Request}
    (read : ofItems items = .ok request) :
    items[1]?.elim (some .null) (Tree.value? (nestingLimit - 1)) = some request.parameters ∧
      items[2]?.elim (some .null) (Tree.value? (nestingLimit - 1)) = some request.id := by
  cases items with
  | nil => cases read
  | cons method rest =>
      obtain ⟨name, -, read⟩ := bind_eq_ok_iff.mp read
      obtain ⟨values, all, read⟩ := bind_eq_ok_iff.mp read
      match rest with
      | [] =>
          cases all
          cases read
          exact ⟨rfl, rfl⟩
      | [parameters] =>
          obtain ⟨first, isFirst, all⟩ := bind_eq_ok_iff.mp all
          cases all
          cases read
          exact ⟨readValue_eq_ok isFirst, rfl⟩
      | [parameters, id] =>
          obtain ⟨first, isFirst, all⟩ := bind_eq_ok_iff.mp all
          obtain ⟨second, isSecond, all⟩ := bind_eq_ok_iff.mp all
          cases all
          cases read
          exact ⟨readValue_eq_ok isFirst, readValue_eq_ok isSecond⟩
      | parameters :: id :: further :: others => cases read

/-- The parts of the tree that the parameters and the id of a request are. -/
theorem parts_of_ofTree {tree : Tree} {request : Request} (read : ofTree tree = .ok request) :
    (part? "params" 1 tree).elim (some .null) (Tree.value? (nestingLimit - 1)) =
        some request.parameters ∧
      (part? "id" 2 tree).elim (some .null) (Tree.value? (nestingLimit - 1)) =
        some request.id := by
  have orNull {part : Option Tree} {found : Option Json}
      (isFound : part.mapM (Tree.value? (nestingLimit - 1)) = some found) :
      part.elim (some .null) (Tree.value? (nestingLimit - 1)) = some (found.getD .null) := by
    cases part with
    | none => cases isFound; rfl
    | some tree =>
        obtain ⟨value, isValue, rfl⟩ := Option.map_eq_some_iff.mp isFound
        exact isValue
  have unfit (other : Tree) (expected : Shape) : wrongType other expected ≠ .ok request := by
    intro read
    rw [wrongType] at read
    split at read <;> cases read
  cases tree with
  | null => exact (unfit .null _ read).elim
  | boolean value => exact (unfit (.boolean value) _ read).elim
  | number literal => exact (unfit (.number literal) _ read).elim
  | text pieces => exact (unfit (.text pieces) _ read).elim
  | array items => exact parts_of_ofItems read
  | object members =>
      obtain ⟨fields, all, read⟩ := bind_eq_ok_iff.mp read
      obtain ⟨parameters, isParameters, heldParameters⟩ :=
        field_of_foldlM (fun read => (entered_readMember read).1) all
      obtain ⟨id, isId, heldId⟩ := field_of_foldlM (fun read => (entered_readMember read).2) all
      rw [Option.none_or] at heldParameters heldId
      rw [ofFields] at read
      split at read
      · cases read
      · cases read
        rw [heldParameters, heldId]
        exact ⟨orNull isParameters, orNull isId⟩

theorem exists_tree_of_ofLine {line : String} {request : Request}
    (read : ofLine line = .ok request) :
    ∃ tree, Tree.ofText? line = some tree ∧ ofTree tree = .ok request := by
  rw [ofLine] at read
  split at read
  · cases read
  · rename_i tree isTree
    split at read
    · rename_i whole isWhole
      cases read
      exact ⟨tree, isTree, isWhole⟩
    · cases read
    · split at read <;> cases read

theorem within_of_ofLine {line : String} {request : Request} (read : ofLine line = .ok request) :
    request.parameters.Within (nestingLimit - 1) ∧ request.id.Within (nestingLimit - 1) := by
  have within {part : Option Tree} {value : Json}
      (isValue : part.elim (some .null) (Tree.value? (nestingLimit - 1)) = some value) :
      value.Within (nestingLimit - 1) := by
    cases part with
    | none => cases isValue; exact trivial
    | some tree => exact Tree.within_of_value? isValue
  obtain ⟨tree, -, isRequest⟩ := exists_tree_of_ofLine read
  obtain ⟨parameters, id⟩ := parts_of_ofTree isRequest
  exact ⟨within parameters, within id⟩

end PrismaZod.Request
