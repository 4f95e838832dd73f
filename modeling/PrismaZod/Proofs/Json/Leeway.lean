import PrismaZod.Proofs.Json.Grammar
import PrismaZod.Proofs.Json.Record

/-!
# Records that are read alike

Two records are read alike where they differ only in keys that are no fields, in
fields that one of them gives their defaults and the other leaves out, and in
fields whose values are read alike themselves.  This holds for faults as well:
what is passed over is never at fault, and what is at fault in one of them is
met first in the other.
-/

namespace PrismaZod.Json

variable {α σ : Type}

/-- Lists with alike items at each index. -/
inductive AlikeLists (alike : Json → Json → Prop) : Json → Json → Prop
  | same (value : Json) : AlikeLists alike value value
  | lists {first second : List Json} : List.Forall₂ alike first second →
      AlikeLists alike (array first) (array second)

/-- How far the values under a key may differ: the key may be left out in the
stead of its default, and two values are to be alike. -/
structure Leeway where
  key : String
  default? : Option Json
  alike : Json → Json → Prop

namespace Leeway

/-- A field that has to be there. -/
def required (key : String) : Leeway := ⟨key, none, (· = ·)⟩

def defaulted (key : String) (default : Json) : Leeway := ⟨key, some default, (· = ·)⟩

/-- A field that holds a list. -/
def list (key : String) (alike : Json → Json → Prop) : Leeway :=
  ⟨key, some (array []), AlikeLists alike⟩

/-- What may be found under the key in one record and in the other. -/
inductive Allows (leeway : Leeway) : Option Json → Option Json → Prop
  | neither : Allows leeway none none
  | both {first second : Json} : leeway.alike first second →
      Allows leeway (some first) (some second)
  | leftOut {default : Json} : leeway.default? = some default → Allows leeway (some default) none
  | added {default : Json} : leeway.default? = some default → Allows leeway none (some default)

theorem Allows.isNone_eq {leeway : Leeway} {first second : Option Json}
    (allows : leeway.Allows first second) (noDefault : leeway.default? = none) :
    first.isNone = second.isNone := by
  cases allows with
  | neither => rfl
  | both _ => rfl
  | leftOut isDefault =>
      rw [noDefault] at isDefault
      cases isDefault
  | added isDefault =>
      rw [noDefault] at isDefault
      cases isDefault

end Leeway

/-- The items of two records in the order of their fields. -/
inductive AlikeItems : List Leeway → List Json → List Json → Prop
  | same (leeways : List Leeway) (items : List Json) : AlikeItems leeways items items
  | next {leeway : Leeway} {leeways : List Leeway} {first second : Json}
      {firsts seconds : List Json} : leeway.alike first second →
      AlikeItems leeways firsts seconds →
        AlikeItems (leeway :: leeways) (first :: firsts) (second :: seconds)

/-- The members of two records.  What they hold under keys that are no fields does
not count. -/
def AlikeMembers (leeways : List Leeway) (first second : Table Json) : Prop :=
  ∀ leeway ∈ leeways, leeway.Allows (first.find? leeway.key) (second.find? leeway.key)

/-- Records that differ within the leeways of their fields. -/
inductive AlikeRecords (leeways : List Leeway) : Json → Json → Prop
  | same (value : Json) : AlikeRecords leeways value value
  | objects {first second : Table Json} : AlikeMembers leeways first second →
      AlikeRecords leeways (object first) (object second)
  | arrays {first second : List Json} : AlikeItems leeways first second →
      AlikeRecords leeways (array first) (array second)

/-- Alike values are read as the same, or are at the same fault. -/
def ReadsAlike (decode : Decoder α) (alike : Json → Json → Prop) : Prop :=
  ∀ {firstLimit secondLimit : Nat} {first second : Json}, first.Within firstLimit →
    second.Within secondLimit → alike first second → decode first = decode second

theorem readsAlike_eq (decode : Decoder α) : ReadsAlike decode (· = ·) :=
  fun _ _ same => congrArg decode same

theorem AlikeItems.length_eq {leeways : List Leeway} {first second : List Json}
    (alike : AlikeItems leeways first second) : first.length = second.length := by
  induction alike with
  | same leeways items => rfl
  | next _ _ ih => rw [List.length_cons, List.length_cons, ih]

theorem mapM_alike {decode : Decoder α} {alike : Json → Json → Prop}
    (reads : ReadsAlike decode alike) {firstLimit secondLimit : Nat} {first second : List Json}
    (firstWithin : ∀ item ∈ first, item.Within firstLimit)
    (secondWithin : ∀ item ∈ second, item.Within secondLimit)
    (each : List.Forall₂ alike first second) : first.mapM decode = second.mapM decode := by
  induction each with
  | nil => rfl
  | cons head _ ih =>
      obtain ⟨firstHead, firstRest⟩ := List.forall_mem_cons.mp firstWithin
      obtain ⟨secondHead, secondRest⟩ := List.forall_mem_cons.mp secondWithin
      rw [List.mapM_cons, List.mapM_cons, reads firstHead secondHead head,
        ih firstRest secondRest]

theorem readsAlike_asList {decode : Decoder α} {alike : Json → Json → Prop}
    (reads : ReadsAlike decode alike) : ReadsAlike (asList decode) (AlikeLists alike) := by
  intro firstLimit secondLimit first second firstWithin secondWithin differ
  cases differ with
  | same value => rfl
  | lists each =>
      match firstLimit, secondLimit, firstWithin, secondWithin with
      | _ + 1, _ + 1, firstWithin, secondWithin =>
          exact mapM_alike reads firstWithin secondWithin each

/-! ## Fields -/

/-- Enter what was found under the key of the field, if anything was. -/
def Member.enterFound (member : Member σ) (found : Option Json) (record : σ) : Except Fault σ :=
  match found with
  | some value => member.enter value record
  | none => .ok record

/-- The field reads alike values alike, and its default changes no record that is
made from a table without its key. -/
structure Member.Tolerates (ofTable : Table Json → σ) (member : Member σ) (leeway : Leeway) :
    Prop where
  key : member.key = leeway.key
  enters : ∀ {firstLimit secondLimit : Nat} {first second : Json}, first.Within firstLimit →
    second.Within secondLimit → leeway.alike first second →
      ∀ record, member.enter first record = member.enter second record
  default : ∀ {value : Json}, leeway.default? = some value → member.required = false ∧
    ∀ table : Table Json, table.find? leeway.key = none →
      member.enter value (ofTable table) = .ok (ofTable table)

section Members

variable {ofTable : Table Json → σ} {key : String} {decode : Decoder α}
  {alike : Json → Json → Prop} {put : α → σ → σ}

theorem Member.tolerates_needed (reads : ReadsAlike decode alike) :
    Member.Tolerates ofTable (.needed key decode put) ⟨key, none, alike⟩ where
  key := rfl
  enters firstWithin secondWithin differ record :=
    congrArg (Except.map (put · record)) (reads firstWithin secondWithin differ)
  default isDefault := nomatch isDefault

theorem Member.tolerates_optional (reads : ReadsAlike decode alike) {default : Json} {unset : α}
    (isUnset : decode default = .ok unset)
    (puts : ∀ table : Table Json, table.find? key = none →
      put unset (ofTable table) = ofTable table) :
    Member.Tolerates ofTable (.optional key decode put) ⟨key, some default, alike⟩ where
  key := rfl
  enters firstWithin secondWithin differ record :=
    congrArg (Except.map (put · record)) (reads firstWithin secondWithin differ)
  default := by
    rintro _ ⟨⟩
    refine ⟨rfl, fun table absent => ?_⟩
    change (decode default).map (put · (ofTable table)) = _
    rw [isUnset, Except.map, puts table absent]

namespace Member.Tolerates

variable {member : Member σ} {leeway : Leeway} (tolerates : Member.Tolerates ofTable member leeway)

include tolerates

theorem default?_eq_none (needed : member.required = true) : leeway.default? = none := by
  cases isDefault : leeway.default? with
  | none => rfl
  | some value =>
      rw [(tolerates.default isDefault).1] at needed
      cases needed

theorem enterFound_alike {firstLimit secondLimit : Nat} {first second : Option Json}
    (firstWithin : ∀ value, first = some value → value.Within firstLimit)
    (secondWithin : ∀ value, second = some value → value.Within secondLimit)
    (allows : leeway.Allows first second) {table : Table Json}
    (absent : table.find? leeway.key = none) :
    member.enterFound first (ofTable table) = member.enterFound second (ofTable table) := by
  cases allows with
  | neither => rfl
  | both differ => exact tolerates.enters (firstWithin _ rfl) (secondWithin _ rfl) differ _
  | leftOut isDefault => exact (tolerates.default isDefault).2 table absent
  | added isDefault => exact ((tolerates.default isDefault).2 table absent).symm

end Member.Tolerates

end Members

/-! ## Records -/

theorem within_of_find? {limit : Nat} {entries : Table Json} {key : String}
    (within : (object entries).Within (limit + 1)) (value : Json)
    (found : entries.find? key = some value) : value.Within limit :=
  within.2 _ (within.1.find?_eq_some_iff.mp found)

namespace RecordType

variable {type : RecordType σ} {slots : List Slot} {ofTable : Table Json → σ}
  {leeways : List Leeway} {firstLimit secondLimit : Nat} {first second : Table Json}

theorem enterKey_of_unknown {key : String} (unknown : type.members.find? (·.key == key) = none)
    (entries : Table Json) (record : σ) : type.enterKey entries record key = .ok record := by
  rw [enterKey]
  split
  · rw [enterEntry, unknown]
  · rfl

theorem enterKey_eq_enterFound {key : String} {member : Member σ}
    (known : type.members.find? (·.key == key) = some member) (entries : Table Json)
    (record : σ) :
    type.enterKey entries record key = member.enterFound (entries.find? key) record := by
  rw [enterKey]
  cases entries.find? key with
  | none => rfl
  | some value =>
      dsimp only
      rw [enterEntry, known]
      rfl

/-- What is found under one key leaves the others as they are. -/
theorem Fits.enterKey_eq_ok (fits : type.Fits slots ofTable)
    (within : (object first).Within (firstLimit + 1)) {key : String} {table : Table Json}
    {record : σ} (entered : type.enterKey first (ofTable table) key = .ok record) :
    ∃ next : Table Json, record = ofTable next ∧
      ∀ other, other ≠ key → next.find? other = table.find? other := by
  rw [enterKey] at entered
  split at entered
  · rename_i value found
    have step := fits.enterEntry_eq_ok_iff (within_of_find? within value found) key table record
    refine ⟨table.insert key value, (step.mp entered).2, fun other different => ?_⟩
    rw [Table.find?_insert, if_neg different]
  · cases entered
    exact ⟨table, rfl, fun _ _ => rfl⟩

section Members

variable (tolerates : List.Forall₂ (Member.Tolerates ofTable) type.members leeways)
  (alike : AlikeMembers leeways first second)

include tolerates alike

/-- A required field is missed in both or in none. -/
theorem missing?_alike : type.missing? first = type.missing? second := by
  rw [missing?, missing?]
  generalize type.members = members at tolerates
  induction tolerates with
  | nil => rfl
  | @cons member leeway members leeways tolerant _ ih =>
      obtain ⟨allowed, others⟩ := List.forall_mem_cons.mp alike
      have sameHere : (member.required && (first.find? member.key).isNone) =
          (member.required && (second.find? member.key).isNone) := by
        cases needed : member.required with
        | false => rfl
        | true => rw [tolerant.key, allowed.isNone_eq (tolerant.default?_eq_none needed)]
      rw [List.find?_cons, List.find?_cons, sameHere, ih others]

variable (firstWithin : (object first).Within (firstLimit + 1))
  (secondWithin : (object second).Within (secondLimit + 1))

include firstWithin secondWithin

/-- What is found under one key is entered alike into a record that was made
without this key. -/
theorem enterKey_alike {key : String} {table : Table Json} (absent : table.find? key = none) :
    type.enterKey first (ofTable table) key = type.enterKey second (ofTable table) key := by
  cases found : type.members.find? (·.key == key) with
  | none => rw [enterKey_of_unknown found, enterKey_of_unknown found]
  | some member =>
      obtain ⟨index, inMembers, rfl⟩ := List.mem_iff_getElem.mp (List.mem_of_find?_eq_some found)
      have inLeeways : index < leeways.length := tolerates.length_eq ▸ inMembers
      have tolerant : Member.Tolerates ofTable type.members[index] leeways[index] :=
        tolerates.get inMembers inLeeways
      have isKey : leeways[index].key = key := by
        rw [← tolerant.key]
        simpa using List.find?_some found
      have allows := alike _ (List.getElem_mem inLeeways)
      rw [isKey] at allows
      rw [enterKey_eq_enterFound found, enterKey_eq_enterFound found]
      exact tolerant.enterFound_alike (within_of_find? firstWithin)
        (within_of_find? secondWithin) allows (isKey ▸ absent)

theorem Fits.foldlM_enterKey_alike (fits : type.Fits slots ofTable) {keys : List String}
    (distinct : keys.Nodup) {table : Table Json}
    (absent : ∀ key ∈ keys, table.find? key = none) :
    keys.foldlM (type.enterKey first) (ofTable table) =
      keys.foldlM (type.enterKey second) (ofTable table) := by
  -- The record is made from what stood under the keys before, so none of the rest is set.
  induction keys generalizing table with
  | nil => rfl
  | cons key keys ih =>
      obtain ⟨isNew, others⟩ := List.nodup_cons.mp distinct
      obtain ⟨here, later⟩ := List.forall_mem_cons.mp absent
      have step := enterKey_alike tolerates alike firstWithin secondWithin here
      rw [List.foldlM_cons, List.foldlM_cons, ← step]
      cases entered : type.enterKey first (ofTable table) key with
      | error fault => rfl
      | ok record =>
          obtain ⟨next, rfl, kept⟩ := fits.enterKey_eq_ok firstWithin entered
          refine ih others fun other among => ?_
          rw [kept other fun same => isNew (same ▸ among)]
          exact later other among

theorem Fits.ofEntries_alike (fits : type.Fits slots ofTable) :
    type.ofEntries first = type.ofEntries second := by
  obtain ⟨keys, increasing, all⟩ := Table.exists_increasing (type.members.map (·.key))
  have known : ∀ member ∈ type.members, member.key ∈ keys := fun member among =>
    all member.key (List.mem_map_of_mem among)
  have distinct : keys.Nodup := increasing.imp ne_of_lt
  have entered : keys.foldlM (type.enterKey first) (ofTable []) =
      keys.foldlM (type.enterKey second) (ofTable []) :=
    fits.foldlM_enterKey_alike tolerates alike firstWithin secondWithin distinct fun _ _ => rfl
  rw [ofEntries, ofEntries, foldlM_enterEntry firstWithin.1 increasing known,
    foldlM_enterEntry secondWithin.1 increasing known, fits.blank, entered,
    missing?_alike tolerates alike]

end Members

theorem enterItems_alike {members : List (Member σ)}
    (tolerates : List.Forall₂ (Member.Tolerates ofTable) members leeways)
    {firstItems secondItems : List Json}
    (firstWithin : ∀ item ∈ firstItems, item.Within firstLimit)
    (secondWithin : ∀ item ∈ secondItems, item.Within secondLimit)
    (alike : AlikeItems leeways firstItems secondItems) (length index : Nat) (record : σ) :
    type.enterItems length members firstItems index record =
      type.enterItems length members secondItems index record := by
  induction alike generalizing members index record with
  | same leeways items => rfl
  | next differ _ ih =>
      cases tolerates with
      | cons tolerant others =>
          obtain ⟨firstHead, firstRest⟩ := List.forall_mem_cons.mp firstWithin
          obtain ⟨secondHead, secondRest⟩ := List.forall_mem_cons.mp secondWithin
          rw [enterItems, enterItems, tolerant.enters firstHead secondHead differ]
          split
          · rfl
          · exact ih others firstRest secondRest _ _

/-- Records that differ within the leeways of their fields are read alike. -/
theorem Fits.readsAlike (fits : type.Fits slots ofTable)
    (tolerates : List.Forall₂ (Member.Tolerates ofTable) type.members leeways) :
    ReadsAlike type.decode (AlikeRecords leeways) := by
  intro firstLimit secondLimit first second firstWithin secondWithin differ
  cases differ with
  | same value => rfl
  | objects alike =>
      match firstLimit, secondLimit, firstWithin, secondWithin with
      | _ + 1, _ + 1, firstWithin, secondWithin =>
          exact fits.ofEntries_alike tolerates alike firstWithin secondWithin
  | arrays items =>
      match firstLimit, secondLimit, firstWithin, secondWithin with
      | _ + 1, _ + 1, firstWithin, secondWithin =>
          rw [decode, decode, ofItems, ofItems, items.length_eq]
          exact enterItems_alike tolerates firstWithin secondWithin items _ _ _

end RecordType

end PrismaZod.Json
