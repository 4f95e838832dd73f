import PrismaZod.Json.Record
import PrismaZod.Proofs.Json.Limits

/-!
# The grammar of records

What a decoder accepts, and what it reads, can be told without the decoder: by a
predicate on values and by what the values that satisfy it mean.  A record is an
object or an array that gives all fields it has to and no field a value that this
does not take.  What it means depends only on what it gives for each key, so that
the two forms of a record mean the same.
-/

namespace PrismaZod.Json

variable {α σ : Type}

/-- The decoder reads the values that are accepted, each as what it means, and no
others. -/
def Reads (decode : Decoder α) (accepts : Json → Prop) (meaning : Json → α) : Prop :=
  ∀ {limit : Nat} {json : Json}, json.Within limit →
    ∀ value, decode json = .ok value ↔ accepts json ∧ value = meaning json

/-! ## Texts, flags and lists -/

def IsText (json : Json) : Prop :=
  ∃ value, json = string value

def IsFlag (json : Json) : Prop :=
  ∃ value, json = boolean value

def IsNullOr (accepts : Json → Prop) (json : Json) : Prop :=
  json = null ∨ accepts json

def IsListOf (accepts : Json → Prop) (json : Json) : Prop :=
  ∃ items, json = array items ∧ ∀ item ∈ items, accepts item

def textOf : Json → String
  | string value => value
  | _ => ""

def flagOf : Json → Bool
  | boolean value => value
  | _ => false

def optionOf (meaning : Json → α) : Json → Option α
  | null => none
  | other => some (meaning other)

def listOf (meaning : Json → α) : Json → List α
  | array items => items.map meaning
  | _ => []

theorem reads_asString : Reads asString IsText textOf := by
  intro limit json _ value
  cases json <;> simp [asString, IsText, textOf, eq_comm]

theorem reads_asBoolean : Reads asBoolean IsFlag flagOf := by
  intro limit json _ value
  cases json <;> simp [asBoolean, IsFlag, flagOf, eq_comm]

theorem reads_asOption {decode : Decoder α} {accepts : Json → Prop} {meaning : Json → α}
    (reads : Reads decode accepts meaning) :
    Reads (asOption decode) (IsNullOr accepts) (optionOf meaning) := by
  intro limit json within value
  by_cases isNull : json = null
  · subst isNull
    simp [asOption, IsNullOr, optionOf, eq_comm]
  · have unfolded : asOption decode json = (decode json).map some := by
      cases json <;> first | rfl | exact absurd rfl isNull
    have meant : optionOf meaning json = some (meaning json) := by
      cases json <;> first | rfl | exact absurd rfl isNull
    rw [unfolded, meant, map_eq_ok_iff]
    simp [reads within, IsNullOr, isNull, eq_comm]

theorem reads_asList {decode : Decoder α} {accepts : Json → Prop} {meaning : Json → α}
    (reads : Reads decode accepts meaning) :
    Reads (asList decode) (IsListOf accepts) (listOf meaning) := by
  intro limit json within values
  cases json with
  | array items =>
      cases limit with
      | zero => exact within.elim
      | succ limit =>
          have each : items.mapM decode = .ok values ↔
              (∀ item ∈ items, accepts item) ∧ values = items.map meaning := by
            change ∀ item ∈ items, item.Within limit at within
            induction items generalizing values with
            | nil => simp [pure, Except.pure, eq_comm]
            | cons item items ih =>
                obtain ⟨first, others⟩ := List.forall_mem_cons.mp within
                simp only [List.mapM_cons, bind_eq_ok_iff, reads first, ih _ others,
                  List.forall_mem_cons]
                simp [pure, Except.pure, eq_comm, and_assoc]
          simpa [asList, IsListOf, listOf] using each
  | _ => simp [asList, IsListOf]

/-! ## Records -/

/-- What a record takes under a key, and whether it has to be there. -/
structure Slot where
  key : String
  required : Bool
  accepts : Json → Prop

/-- Whatever has to be in a table is there, and what is there is accepted. -/
def Supplies (members : Table Json) (slots : List Slot) : Prop :=
  (∀ slot ∈ slots, slot.required = true → ∃ value, members.find? slot.key = some value) ∧
    ∀ slot ∈ slots, ∀ value, members.find? slot.key = some value → slot.accepts value

/-- An object that supplies the slots, or an array that does so in their order. -/
def IsRecord (slots : List Slot) : Json → Prop
  | object members => Supplies members slots
  | array items =>
      items.length ≤ slots.length ∧ (∀ slot ∈ slots.drop items.length, slot.required = false) ∧
        List.Forall₂ (fun slot item => slot.accepts item) (slots.take items.length) items
  | _ => False

/-- The members of an object, or the items of an array under the keys of their places. -/
def membersFor (keys : List String) : Json → Table Json
  | object members => members
  | array items => Table.ofList (keys.zip items)
  | _ => []

theorem isRecord_nil (slots : List Slot) :
    IsRecord slots (array []) ↔ ∀ slot ∈ slots, slot.required = false := by
  simp [IsRecord]

theorem not_isRecord_of_no_slots (item : Json) (items : List Json) :
    ¬IsRecord [] (array (item :: items)) := by
  simp [IsRecord]

theorem isRecord_cons (slot : Slot) (slots : List Slot) (item : Json) (items : List Json) :
    IsRecord (slot :: slots) (array (item :: items)) ↔
      slot.accepts item ∧ IsRecord slots (array items) := by
  simp only [IsRecord, List.length_cons, Nat.succ_le_succ_iff, List.drop_succ_cons,
    List.take_succ_cons, List.forall₂_cons]
  tauto

/-- The field of a record stands for a slot, where a record is made from a table. -/
structure Member.Fits (ofTable : Table Json → σ) (member : Member σ) (slot : Slot) : Prop where
  key : member.key = slot.key
  required : member.required = slot.required
  enters : ∀ {limit : Nat} {value : Json}, value.Within limit → ∀ table record,
    member.enter value (ofTable table) = .ok record ↔
      slot.accepts value ∧ record = ofTable (table.insert slot.key value)

/-- The fields of a record stand for slots, and nothing else in a table counts. -/
structure RecordType.Fits (type : RecordType σ) (slots : List Slot) (ofTable : Table Json → σ) :
    Prop where
  blank : type.blank = ofTable []
  known : ∀ {first second : Table Json},
    (∀ slot ∈ slots, first.find? slot.key = second.find? slot.key) → ofTable first = ofTable second
  members : List.Forall₂ (Member.Fits ofTable) type.members slots
  distinct : (slots.map Slot.key).Nodup

theorem Member.fits {ofTable : Table Json → σ} {key : String} {required : Bool}
    {decode : Decoder α} {accepts : Json → Prop} {meaning : Json → α} {put : α → σ → σ}
    (reads : Reads decode accepts meaning)
    (puts : ∀ table value, put (meaning value) (ofTable table) = ofTable (table.insert key value)) :
    Member.Fits ofTable ⟨key, required, fun value record => (decode value).map (put · record)⟩
      ⟨key, required, accepts⟩ where
  key := rfl
  required := rfl
  enters := by
    intro limit value within table record
    dsimp only
    rw [map_eq_ok_iff, ← puts]
    simp [reads within, eq_comm, and_assoc]

namespace RecordType.Fits

variable {type : RecordType σ} {slots : List Slot} {ofTable : Table Json → σ}

theorem heads_eq (fits : type.Fits slots ofTable) :
    type.members.map (fun member => (member.key, member.required)) =
      slots.map fun slot => (slot.key, slot.required) := by
  rw [← List.forall₂_eq_eq_eq, List.forall₂_map_left_iff, List.forall₂_map_right_iff]
  exact fits.members.imp fun member slot same => Prod.ext same.key same.required

theorem keys_eq (fits : type.Fits slots ofTable) :
    type.members.map Member.key = slots.map Slot.key := by
  simpa [List.map_map, Function.comp_def] using congrArg (List.map Prod.fst) fits.heads_eq

theorem enterEntry_eq_ok_iff (fits : type.Fits slots ofTable) {limit : Nat} {value : Json}
    (within : value.Within limit) (key : String) (table : Table Json) (record : σ) :
    type.enterEntry (ofTable table) (key, value) = .ok record ↔
      (∀ slot ∈ slots, slot.key = key → slot.accepts value) ∧
        record = ofTable (table.insert key value) := by
  rw [enterEntry]
  cases found : type.members.find? (·.key == key) with
  | none =>
      have unknown : ∀ slot ∈ slots, slot.key ≠ key := by
        have apart : key ∉ type.members.map Member.key := by
          simpa [List.find?_eq_none] using found
        rw [fits.keys_eq] at apart
        exact fun slot among isKey => apart (List.mem_map.mpr ⟨slot, among, isKey⟩)
      have same : ofTable (table.insert key value) = ofTable table :=
        fits.known fun slot among => by rw [Table.find?_insert, if_neg (unknown slot among)]
      have none : ∀ slot ∈ slots, slot.key = key → slot.accepts value :=
        fun slot among isKey => (unknown slot among isKey).elim
      rw [same, and_iff_right none, Except.ok.injEq]
      exact eq_comm
  | some member =>
      obtain ⟨index, inMembers, rfl⟩ := List.mem_iff_getElem.mp (List.mem_of_find?_eq_some found)
      have inSlots : index < slots.length := fits.members.length_eq ▸ inMembers
      have fit : Member.Fits ofTable type.members[index] slots[index] :=
        fits.members.get inMembers inSlots
      have isKey : slots[index].key = key := by
        rw [← fit.key]
        simpa using List.find?_some found
      -- Keys are distinct, so this slot is the only one that has to accept the value.
      have only : ∀ slot ∈ slots, slot.key = key → slot = slots[index] := fun slot among same =>
        List.inj_on_of_nodup_map fits.distinct among (List.getElem_mem inSlots)
          (same.trans isKey.symm)
      have accepted : slots[index].accepts value ↔
          ∀ slot ∈ slots, slot.key = key → slot.accepts value :=
        ⟨fun accepts slot among same => only slot among same ▸ accepts,
          fun each => each _ (List.getElem_mem inSlots) isKey⟩
      rw [← accepted, ← isKey]
      exact fit.enters within table record

theorem foldlM_enterEntry_eq_ok_iff (fits : type.Fits slots ofTable) {limit : Nat}
    {entries : List (String × Json)} (within : ∀ entry ∈ entries, entry.2.Within limit)
    (table : Table Json) (record : σ) :
    entries.foldlM type.enterEntry (ofTable table) = .ok record ↔
      (∀ entry ∈ entries, ∀ slot ∈ slots, slot.key = entry.1 → slot.accepts entry.2) ∧
        record =
          ofTable (entries.foldl (fun table entry => table.insert entry.1 entry.2) table) := by
  -- A record is read into that of the entries before, so the table is general.
  induction entries generalizing table with
  | nil => simp [pure, Except.pure, eq_comm]
  | cons entry entries ih =>
      obtain ⟨first, others⟩ := List.forall_mem_cons.mp within
      simp only [List.foldlM_cons, bind_eq_ok_iff, fits.enterEntry_eq_ok_iff first,
        List.forall_mem_cons, and_assoc]
      constructor
      · rintro ⟨_, accepted, rfl, rest⟩
        exact ⟨accepted, (ih others _).mp rest⟩
      · rintro ⟨accepted, rest⟩
        exact ⟨_, accepted, rfl, (ih others _).mpr rest⟩

theorem missing?_eq_none_iff (fits : type.Fits slots ofTable) (entries : Table Json) :
    type.missing? entries = none ↔
      ∀ slot ∈ slots, slot.required = true → ∃ value, entries.find? slot.key = some value := by
  have sameHeads : (∀ head ∈ type.members.map (fun member => (member.key, member.required)),
      ¬(head.2 && (entries.find? head.1).isNone) = true) ↔
        ∀ head ∈ slots.map (fun slot => (slot.key, slot.required)),
          ¬(head.2 && (entries.find? head.1).isNone) = true := by
    rw [fits.heads_eq]
  rw [List.forall_mem_map, List.forall_mem_map] at sameHeads
  rw [missing?, List.find?_eq_none, sameHeads]
  simp [← Option.isSome_iff_exists, Option.isSome_iff_ne_none]

theorem ofEntries_eq_ok_iff (fits : type.Fits slots ofTable) {limit : Nat} {entries : Table Json}
    (sorted : entries.Sorted) (within : ∀ entry ∈ entries, entry.2.Within limit) (record : σ) :
    type.ofEntries entries = .ok record ↔ Supplies entries slots ∧ record = ofTable entries := by
  have unfolded : type.ofEntries entries = .ok record ↔
      entries.foldlM type.enterEntry type.blank = .ok record ∧ type.missing? entries = none := by
    rw [ofEntries]
    cases entries.foldlM type.enterEntry type.blank with
    | error fault => simp
    | ok read => cases type.missing? entries <;> simp
  have accepted :
      (∀ entry ∈ entries, ∀ slot ∈ slots, slot.key = entry.1 → slot.accepts entry.2) ↔
        ∀ slot ∈ slots, ∀ value, entries.find? slot.key = some value → slot.accepts value := by
    simp only [sorted.find?_eq_some_iff]
    exact ⟨fun each slot among value held => each _ held slot among rfl,
      fun each entry held slot among isKey => each slot among _ (isKey ▸ held)⟩
  rw [unfolded, fits.blank, fits.foldlM_enterEntry_eq_ok_iff within, fits.missing?_eq_none_iff,
    ← Table.ofList, Table.ofList_of_sorted sorted, accepted]
  constructor
  · rintro ⟨⟨accepts, isValue⟩, present⟩
    exact ⟨⟨present, accepts⟩, isValue⟩
  · rintro ⟨⟨present, accepts⟩, isValue⟩
    exact ⟨⟨accepts, isValue⟩, present⟩

theorem enterItems_eq_ok_iff {members : List (Member σ)}
    (each : List.Forall₂ (Member.Fits ofTable) members slots) {limit : Nat} {items : List Json}
    (within : ∀ item ∈ items, item.Within limit) (length index : Nat) (table : Table Json)
    (record : σ) :
    type.enterItems length members items index (ofTable table) = .ok record ↔
      IsRecord slots (array items) ∧
        record = ofTable (((slots.map Slot.key).zip items).foldl
          (fun table entry => table.insert entry.1 entry.2) table) := by
  induction each generalizing items index table with
  | nil =>
      cases items with
      | nil => simp [enterItems, isRecord_nil, @eq_comm _ record]
      | cons item items => simp [enterItems, not_isRecord_of_no_slots]
  | @cons member slot members slots fits each ih =>
      cases items with
      | nil =>
          have others := ih within (index + 1) table
          rw [isRecord_nil, List.zip_nil_right] at others ⊢
          rw [enterItems, fits.required, List.forall_mem_cons]
          cases slot.required with
          | true => simp
          | false => simpa using others
      | cons item items =>
          obtain ⟨first, others⟩ := List.forall_mem_cons.mp within
          rw [isRecord_cons, List.map_cons, List.zip_cons_cons, List.foldl_cons, and_assoc,
            ← ih others (index + 1), enterItems]
          constructor
          · intro read
            split at read
            · cases read
            · rename_i next entered
              obtain ⟨accepts, rfl⟩ := (fits.enters first table next).mp entered
              exact ⟨accepts, read⟩
          · rintro ⟨accepts, read⟩
            rw [(fits.enters first table _).mpr ⟨accepts, rfl⟩]
            exact read

theorem reads (fits : type.Fits slots ofTable) :
    Reads type.decode (IsRecord slots)
      fun json => ofTable (json.membersFor (slots.map Slot.key)) := by
  intro limit json within record
  match limit, json, within with
  | limit + 1, object members, ⟨sorted, each⟩ => exact fits.ofEntries_eq_ok_iff sorted each record
  | limit + 1, array items, each =>
      rw [decode, ofItems, fits.blank]
      exact enterItems_eq_ok_iff fits.members each items.length 0 [] record
  | _, null, _ => simp [decode, IsRecord]
  | _, boolean _, _ => simp [decode, IsRecord]
  | _, number _, _ => simp [decode, IsRecord]
  | _, string _, _ => simp [decode, IsRecord]

end RecordType.Fits

/-! ## The two forms of a record -/

theorem nodup_zip {keys : List String} (distinct : keys.Nodup) (items : List Json) :
    ((keys.zip items).map Prod.fst).Nodup := by
  refine distinct.sublist ?_
  induction keys generalizing items with
  | nil => exact List.Sublist.refl _
  | cons key keys ih =>
      cases items with
      | nil => exact List.nil_sublist _
      | cons item items => exact (ih (List.nodup_cons.mp distinct).2 items).cons_cons key

theorem Supplies.congr {first second : Table Json} {slots : List Slot}
    (same : ∀ slot ∈ slots, first.find? slot.key = second.find? slot.key) :
    Supplies first slots ↔ Supplies second slots := by
  have required : (∀ slot ∈ slots, slot.required = true →
      ∃ value, first.find? slot.key = some value) ↔
        ∀ slot ∈ slots, slot.required = true → ∃ value, second.find? slot.key = some value :=
    forall₂_congr fun slot among => by rw [same slot among]
  have accepted : (∀ slot ∈ slots, ∀ value, first.find? slot.key = some value →
      slot.accepts value) ↔
        ∀ slot ∈ slots, ∀ value, second.find? slot.key = some value → slot.accepts value :=
    forall₂_congr fun slot among => by rw [same slot among]
  exact and_congr required accepted

theorem supplies_cons_iff (slot : Slot) (slots : List Slot) (item : Json)
    (rest : Table Json) (isNew : slot.key ∉ slots.map Slot.key) :
    Supplies ((slot.key, item) :: rest) (slot :: slots) ↔
      slot.accepts item ∧ Supplies rest slots := by
  have others : Supplies ((slot.key, item) :: rest) slots ↔ Supplies rest slots := by
    refine Supplies.congr fun other among => ?_
    rw [Table.find?_cons, if_neg]
    rintro same
    exact isNew (List.mem_map.mpr ⟨other, among, same⟩)
  rw [← others, Supplies, Supplies, List.forall_mem_cons, List.forall_mem_cons, Table.find?_cons,
    if_pos rfl]
  simp [and_left_comm]

theorem isRecord_array_iff {slots : List Slot} (distinct : (slots.map Slot.key).Nodup)
    (items : List Json) :
    IsRecord slots (array items) ↔
      items.length ≤ slots.length ∧ Supplies ((slots.map Slot.key).zip items) slots := by
  induction slots generalizing items with
  | nil => cases items <;> simp [IsRecord, Supplies]
  | cons slot slots ih =>
      obtain ⟨isNew, others⟩ := List.nodup_cons.mp distinct
      cases items with
      | nil => simp [isRecord_nil, Supplies]
      | cons item items =>
          rw [isRecord_cons, ih others items, List.map_cons, List.zip_cons_cons,
            supplies_cons_iff slot slots item _ isNew, List.length_cons, List.length_cons,
            Nat.succ_le_succ_iff]
          exact and_left_comm

/-- Items are read as a record in their order just as they are under its keys. -/
def AlikeInBothForms (decode : Decoder α) (keys : List String) (items : List Json) : Prop :=
  ∀ record, decode (array items) = .ok record ↔
    items.length ≤ keys.length ∧ decode (object (Table.ofList (keys.zip items))) = .ok record

theorem RecordType.Fits.alikeInBothForms {type : RecordType σ} {slots : List Slot}
    {ofTable : Table Json → σ} (fits : type.Fits slots ofTable) {limit : Nat} {items : List Json}
    (within : ∀ item ∈ items, item.Within limit) :
    AlikeInBothForms type.decode (slots.map Slot.key) items := by
  intro record
  have withinObject : (object (Table.ofList ((slots.map Slot.key).zip items))).Within (limit + 1) :=
    within_ofList fun entry among => within _ (List.of_mem_zip among).2
  have withinArray : (array items).Within (limit + 1) := within
  have sameMembers : Supplies (Table.ofList ((slots.map Slot.key).zip items)) slots ↔
      Supplies ((slots.map Slot.key).zip items) slots :=
    Supplies.congr fun slot _ => Table.find?_ofList_of_nodup (nodup_zip fits.distinct items)
  rw [fits.reads withinArray, fits.reads withinObject, isRecord_array_iff fits.distinct,
    ← sameMembers, List.length_map, and_assoc]
  rfl

end PrismaZod.Json
