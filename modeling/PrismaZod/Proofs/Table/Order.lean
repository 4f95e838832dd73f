import Mathlib.Data.List.Sort
import Mathlib.Data.String.Basic
import PrismaZod.Table

/-!
# The order of tables

Entering a value keeps a table sorted, and a list that is sorted already is its
own table.  In a sorted table an entry is found just when it is there, so that
the entries under given keys are those that are found under them.
-/

namespace PrismaZod.Table

variable {α : Type} {key : String} {value : α} {table : Table α}

theorem mem_of_mem_insert {entry : String × α} (member : entry ∈ insert key value table) :
    entry = (key, value) ∨ entry ∈ table := by
  induction table with
  | nil => exact .inl (List.mem_singleton.mp member)
  | cons first rest ih =>
      obtain ⟨head, held⟩ := first
      unfold insert at member
      split at member
      · exact List.mem_cons.mp member
      · split at member
        · rcases List.mem_cons.mp member with isNew | inRest
          · exact .inl isNew
          · exact .inr (List.mem_cons_of_mem _ inRest)
        · rcases List.mem_cons.mp member with isHead | inRest
          · exact .inr (isHead ▸ List.mem_cons_self)
          · rcases ih inRest with isNew | inTail
            · exact .inl isNew
            · exact .inr (List.mem_cons_of_mem _ inTail)

theorem Sorted.insert (sorted : table.Sorted) : (table.insert key value).Sorted := by
  induction table with
  | nil => exact List.pairwise_singleton _ _
  | cons first rest ih =>
      obtain ⟨head, held⟩ := first
      obtain ⟨above, sortedRest⟩ := List.pairwise_cons.mp sorted
      unfold Table.insert
      split
      · rename_i below
        refine List.pairwise_cons.mpr ⟨fun entry member => ?_, sorted⟩
        rcases List.mem_cons.mp member with rfl | inRest
        · exact below
        · exact lt_trans below (above entry inRest)
      · split
        · rename_i equal
          rw [← equal] at above
          exact List.pairwise_cons.mpr ⟨above, sortedRest⟩
        · rename_i notBelow notEqual
          refine List.pairwise_cons.mpr ⟨fun entry member => ?_, ih sortedRest⟩
          rcases mem_of_mem_insert member with rfl | inRest
          · exact lt_of_le_of_ne (not_lt.mp notBelow) (Ne.symm notEqual)
          · exact above entry inRest

theorem insert_of_above (above : ∀ entry ∈ table, entry.1 < key) :
    table.insert key value = table ++ [(key, value)] := by
  induction table with
  | nil => rfl
  | cons first rest ih =>
      obtain ⟨aboveHead, aboveRest⟩ := List.forall_mem_cons.mp above
      rw [insert, if_neg (lt_asymm aboveHead), if_neg (ne_of_gt aboveHead), ih aboveRest,
        List.cons_append]

theorem insert_of_below {head : String} {held : α} {rest : Table α} (below : key < head) :
    insert key value ((head, held) :: rest) = (key, value) :: (head, held) :: rest := by
  rw [insert, if_pos below]

/-- What is entered in order is a sorted table of entries that were entered. -/
theorem sorted_ofList (entries : List (String × α)) :
    (ofList entries).Sorted ∧ ∀ entry ∈ ofList entries, entry ∈ entries := by
  have entered (table : Table α) (sorted : table.Sorted) :
      (entries.foldl (fun table entry => table.insert entry.1 entry.2) table).Sorted ∧
        ∀ entry ∈ entries.foldl (fun table entry => table.insert entry.1 entry.2) table,
          entry ∈ table ∨ entry ∈ entries := by
    induction entries generalizing table with
    | nil => exact ⟨sorted, fun entry member => .inl member⟩
    | cons first rest ih =>
        obtain ⟨sortedRest, known⟩ := ih (table.insert first.1 first.2) sorted.insert
        refine ⟨sortedRest, fun entry member => ?_⟩
        rcases known entry member with inTable | inRest
        · rcases mem_of_mem_insert inTable with isFirst | inOld
          · exact .inr (isFirst ▸ List.mem_cons_self)
          · exact .inl inOld
        · exact .inr (List.mem_cons_of_mem first inRest)
  obtain ⟨sorted, known⟩ := entered [] List.Pairwise.nil
  refine ⟨sorted, fun entry member => ?_⟩
  rcases known entry member with inNothing | inEntries
  · cases inNothing
  · exact inEntries

theorem ofList_of_sorted {entries : List (String × α)} (sorted : Table.Sorted entries) :
    ofList entries = entries := by
  have entered (table : Table α) (sorted : Table.Sorted (table ++ entries)) :
      entries.foldl (fun table entry => table.insert entry.1 entry.2) table =
        table ++ entries := by
    induction entries generalizing table with
    | nil => simp
    | cons first rest ih =>
        have above : ∀ entry ∈ table, entry.1 < first.1 := by
          intro entry member
          exact (List.pairwise_append.mp sorted).2.2 entry member first List.mem_cons_self
        have shifted : Table.Sorted (table ++ [first] ++ rest) := by simpa using sorted
        have sortedRest : Table.Sorted rest :=
          (List.pairwise_append.mp shifted).2.1
        rw [List.foldl_cons, insert_of_above above, ih sortedRest _ shifted]
        simp
  exact entered [] sorted

theorem find?_eq_none_iff : table.find? key = none ↔ key ∉ table.map Prod.fst := by
  induction table with
  | nil => simp
  | cons first rest ih =>
      rw [find?_cons, List.map_cons, List.mem_cons]
      split
      · rename_i same
        simp [same]
      · rename_i other
        simp [other, ih]

theorem find?_append (first second : Table α) :
    find? key (first ++ second) = (find? key first).or (find? key second) := by
  induction first with
  | nil => rfl
  | cons entry rest ih =>
      rw [List.cons_append, find?_cons, find?_cons, ih]
      split <;> rfl

/-- What is found once entries have been entered into what was found before; of
entries with one key the last is found. -/
theorem find?_foldl_insert (entries : List (String × α)) (table : Table α) :
    find? key (entries.foldl (fun table entry => table.insert entry.1 entry.2) table) =
      (find? key entries.reverse).or (find? key table) := by
  induction entries generalizing table with
  | nil => rfl
  | cons first rest ih =>
      have entered : find? key (table.insert first.1 first.2) =
          (find? key [first]).or (find? key table) := by
        rw [find?_insert, find?_cons, find?_nil]
        split <;> rfl
      rw [List.foldl_cons, ih, entered, List.reverse_cons, find?_append, Option.or_assoc]

theorem find?_ofList (entries : List (String × α)) :
    find? key (ofList entries) = find? key entries.reverse := by
  rw [ofList, find?_foldl_insert, find?_nil, Option.or_none]

theorem find?_ofList_of_nodup {entries : List (String × α)}
    (distinct : (entries.map Prod.fst).Nodup) :
    find? key (ofList entries) = find? key entries := by
  rw [find?_ofList]
  induction entries with
  | nil => rfl
  | cons first rest ih =>
      obtain ⟨isNew, others⟩ := List.nodup_cons.mp distinct
      rw [List.reverse_cons, find?_append, ih others, find?_cons, find?_cons, find?_nil]
      split
      · rename_i same
        have apart : find? first.1 rest = none := find?_eq_none_iff.mpr isNew
        rw [same, apart]
        rfl
      · exact Option.or_none

/-- The keys of a table are those that were entered. -/
theorem mem_keys_ofList {entries : List (String × α)} :
    key ∈ (ofList entries).map Prod.fst ↔ key ∈ entries.map Prod.fst := by
  rw [← not_iff_not, ← find?_eq_none_iff, find?_ofList, find?_eq_none_iff, List.map_reverse,
    List.mem_reverse]

/-- Keys can be put in order. -/
theorem exists_increasing (keys : List String) :
    ∃ increasing : List String,
      increasing.Pairwise (· < ·) ∧ ∀ key ∈ keys, key ∈ increasing := by
  refine ⟨(ofList (keys.map fun key => (key, ()))).map Prod.fst,
    List.pairwise_map.mpr (sorted_ofList _).1, fun key among => mem_keys_ofList.mpr ?_⟩
  simpa [Function.comp_def] using among

theorem Sorted.find?_eq_some_iff (sorted : table.Sorted) :
    table.find? key = some value ↔ (key, value) ∈ table := by
  induction table with
  | nil => simp
  | cons first rest ih =>
      obtain ⟨head, held⟩ := first
      obtain ⟨above, sortedRest⟩ := List.pairwise_cons.mp sorted
      rw [find?_cons, List.mem_cons, Prod.mk.injEq]
      split
      · rename_i equal
        subst equal
        have notLater : (key, value) ∉ rest := fun later => lt_irrefl key (above _ later)
        simp [notLater, eq_comm]
      · rename_i different
        simp [different, ih sortedRest]

/-- The entries under some keys are what is found under them. -/
theorem Sorted.filter_keys (sorted : table.Sorted) {keys : List String}
    (increasing : keys.Pairwise (· < ·)) :
    table.filter (fun entry => keys.contains entry.1) =
      keys.filterMap fun key => (table.find? key).map (key, ·) := by
  have irreflexive : Std.Irrefl fun first second : String × α => first.1 < second.1 :=
    ⟨fun entry => lt_irrefl entry.1⟩
  have antisymmetric : Std.Antisymm fun first second : String × α => first.1 < second.1 :=
    ⟨fun first second below above => (lt_asymm below above).elim⟩
  have sortedFound : (keys.filterMap fun key => (table.find? key).map (key, ·)).Pairwise
      fun first second => first.1 < second.1 := by
    rw [List.pairwise_filterMap]
    refine increasing.imp fun {lower upper} below => ?_
    simp only [Option.map_eq_some_iff]
    rintro _ ⟨_, _, rfl⟩ _ ⟨_, _, rfl⟩
    exact below
  refine List.Pairwise.eq_of_mem_iff (List.Pairwise.filter _ sorted) sortedFound fun entry => ?_
  obtain ⟨key, value⟩ := entry
  simp only [List.mem_filter, List.contains_iff_mem, List.mem_filterMap, Option.map_eq_some_iff,
    Prod.mk.injEq, sorted.find?_eq_some_iff]
  constructor
  · rintro ⟨member, isKey⟩
    exact ⟨key, isKey, value, member, rfl, rfl⟩
  · rintro ⟨_, isKey, _, member, rfl, rfl⟩
    exact ⟨member, isKey⟩

end PrismaZod.Table
