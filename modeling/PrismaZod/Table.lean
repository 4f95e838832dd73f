/-!
# Tables sorted by key

A table lists its entries in increasing order of their keys, each key once.
Keys are compared by code point, which is the order of their UTF-8 bytes.
JSON objects, TOML tables and raw generator options are all tables, so that
what visits them in order visits them in key order.
-/

namespace PrismaZod

/-- Entries of a table, smallest key first. -/
abbrev Table (α : Type) := List (String × α)

namespace Table

variable {α β : Type}

/-- Enter a value under a key, replacing the value the key had. -/
def insert (key : String) (value : α) : Table α → Table α
  | [] => [(key, value)]
  | (head, held) :: rest =>
      if key < head then (key, value) :: (head, held) :: rest
      else if key = head then (key, value) :: rest
      else (head, held) :: insert key value rest

def find? (key : String) : Table α → Option α
  | [] => none
  | (head, held) :: rest => if key = head then some held else find? key rest

/-- The table of a list of entries; of two with one key the later one stays. -/
def ofList (entries : List (String × α)) : Table α :=
  entries.foldl (fun table entry => table.insert entry.1 entry.2) []

/-- A table proper: its keys increase. -/
def Sorted (table : Table α) : Prop :=
  table.Pairwise (fun first second => first.1 < second.1)

@[simp]
theorem find?_nil (key : String) : find? key ([] : Table α) = none :=
  rfl

theorem find?_cons (key head : String) (held : α) (rest : Table α) :
    find? key ((head, held) :: rest) =
      if key = head then some held else find? key rest :=
  rfl

/-- Entering a value changes what is found under its key and nothing else. -/
theorem find?_insert (key other : String) (value : α) (table : Table α) :
    find? other (insert key value table) =
      if other = key then some value else find? other table := by
  induction table with
  | nil => simp [insert, find?_cons]
  | cons entry rest ih =>
      obtain ⟨head, held⟩ := entry
      unfold insert
      split
      · simp [find?_cons]
      · split
        · rename_i keyEq
          subst keyEq
          by_cases same : other = key <;> simp [find?_cons, same]
        · rename_i notEq
          rw [find?_cons, ih, find?_cons]
          by_cases atHead : other = head
          · subst atHead
            simp [Ne.symm notEq]
          · simp [atHead]

end Table

end PrismaZod
