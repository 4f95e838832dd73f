import PrismaZod.Json.Record
import PrismaZod.Proofs.Table.Order

/-!
# Reading records

The entries of a sorted table that are no fields of a record change nothing, so
that reading the table is reading what is found under the keys of the fields, in
the order of the keys.
-/

namespace PrismaZod.Json.RecordType

variable {σ : Type} {type : RecordType σ} {entries : Table Json}

/-- Read what is found under a key, if anything is. -/
def enterKey (type : RecordType σ) (entries : Table Json) (record : σ) (key : String) :
    Except Fault σ :=
  match entries.find? key with
  | some value => type.enterEntry record (key, value)
  | none => .ok record

theorem enterEntry_of_not_mem {keys : List String}
    (known : ∀ member ∈ type.members, member.key ∈ keys) {entry : String × Json}
    (outside : entry.1 ∉ keys) (record : σ) : type.enterEntry record entry = .ok record := by
  have unknown : type.members.find? (·.key == entry.1) = none := by
    rw [List.find?_eq_none]
    intro member among isKey
    exact outside (beq_iff_eq.mp isKey ▸ known member among)
  rw [enterEntry, unknown]

theorem foldlM_enterEntry (sorted : Table.Sorted entries) {keys : List String}
    (increasing : keys.Pairwise (· < ·)) (known : ∀ member ∈ type.members, member.key ∈ keys)
    (record : σ) :
    entries.foldlM type.enterEntry record = keys.foldlM (type.enterKey entries) record := by
  have skips : type.enterEntry = fun record entry =>
      if keys.contains entry.1 = true then type.enterEntry record entry else pure record := by
    funext record entry
    split
    · rfl
    · rename_i outside
      exact enterEntry_of_not_mem known (fun inside => outside (by simpa using inside)) record
  calc entries.foldlM type.enterEntry record
    _ = entries.foldlM (fun record entry =>
          if keys.contains entry.1 = true then type.enterEntry record entry else pure record)
          record := congrArg (entries.foldlM · record) skips
    _ = (entries.filter fun entry => keys.contains entry.1).foldlM type.enterEntry record :=
        List.foldlM_filter.symm
    _ = (keys.filterMap fun key => (entries.find? key).map (key, ·)).foldlM type.enterEntry
          record := by rw [sorted.filter_keys increasing]
    _ = keys.foldlM (type.enterKey entries) record := by
        rw [List.foldlM_filterMap]
        congr
        funext record key
        rw [enterKey]
        cases entries.find? key <;> rfl

end PrismaZod.Json.RecordType
