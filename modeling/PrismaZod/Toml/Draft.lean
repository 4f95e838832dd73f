import PrismaZod.Toml.Basic

/-!
# Tables under construction

A TOML document may come back to a table and enter more members, but only in
the way in which the table began: a table with a header of its own gets no
second one, a table made by dotted keys grows by dotted keys alone, and what is
complete in itself never grows.  Drafts remember how each table began; their
members are in the order of entry.
-/

namespace PrismaZod.Toml

/-- How a table began. -/
inductive Origin
  /-- By a header of its own, or as the whole document. -/
  | header
  /-- By the header of a table inside it. -/
  | implied
  /-- By a dotted key. -/
  | dotted
deriving DecidableEq, Repr, Inhabited

/-- A value that may be under construction. -/
inductive Draft
  | value (value : Toml)
  | table (origin : Origin) (members : List (String × Draft))
  /-- An array of tables, of which only the latest still grows; the earlier ones
  are newest first. -/
  | tables (earlier : List (List (String × Draft))) (latest : List (String × Draft))
deriving Repr, Inhabited

abbrev Members := List (String × Draft)

namespace Members

/-- Change what is under a key. What is new comes last. -/
def change (key : String) (edit : Option Draft → Option Draft) : Members → Option Members
  | [] => (edit none).map fun draft => [(key, draft)]
  | (head, held) :: rest =>
      if head = key then (edit (some held)).map fun draft => (head, draft) :: rest
      else (change key edit rest).map ((head, held) :: ·)

def erase (key : String) (members : Members) : Members :=
  members.filter fun member => member.1 ≠ key

/-- Edit the table at a path. Tables that are missing on the way are begun, by a
dotted key or else by a header; of an array of tables the latest is meant. A
dotted key does not lead through a table with a header. -/
def within (isDotted : Bool) (edit : Origin → Members → Option Members) :
    List String → Origin → Members → Option Members
  | [], origin, members => edit origin members
  | key :: path, _, members =>
      change key (fun held =>
        match held with
        | none =>
            let origin := if isDotted then Origin.dotted else .implied
            (within isDotted edit path origin []).map (.table origin)
        | some (.value _) => none
        | some (.table origin inner) =>
            if isDotted ∧ origin = .header then none
            else (within isDotted edit path origin inner).map (.table origin)
        | some (.tables earlier latest) =>
            (within isDotted edit path .header latest).map (.tables earlier)) members

/-- A value for a key that has none yet. -/
def fresh (draft : Draft) (held : Option Draft) : Option Draft :=
  if held.isNone then some draft else none

/-- Enter a value under a dotted key, which is a path and a last key. Only
tables that were made by dotted keys are entered through a path. -/
def enter (path : List String) (key : String) (value : Toml) (members : Members) :
    Option Members :=
  within true
    (fun origin inner =>
      if origin = .dotted ↔ path ≠ [] then change key (fresh (.value value)) inner
      else none)
    path .header members

/-- Begin the table of a header, unless it has one already. It comes last, also
when headers of tables inside it came before its own. -/
def beginTable (path : List String) (key : String) (members : Members) : Option Members :=
  within false
    (fun _ inner =>
      match Table.find? key inner with
      | none => some (inner ++ [(key, .table .header [])])
      | some (.table .implied begun) => some (erase key inner ++ [(key, .table .header begun)])
      | _ => none)
    path .header members

def beginItem (path : List String) (key : String) (members : Members) : Option Members :=
  within false
    (fun _ inner => change key (fun held =>
      match held with
      | none => some (.tables [] [])
      | some (.tables earlier latest) => some (.tables (latest :: earlier) [])
      | _ => none) inner)
    path .header members

end Members

mutual

def Draft.value? : Draft → Option Toml
  | .value value => some value
  | .table _ members => (Members.values? members).bind ofMembers?
  | .tables earlier latest => do
      let last ← (Members.values? latest).bind ofMembers?
      let others ← Members.tables? earlier
      some (.array (last :: others).reverse)

def Members.values? : List (String × Draft) → Option (List (String × Toml))
  | [] => some []
  | (key, draft) :: rest => do
      let value ← draft.value?
      let others ← Members.values? rest
      some ((key, value) :: others)

def Members.tables? : List (List (String × Draft)) → Option (List Toml)
  | [] => some []
  | members :: rest => do
      let table ← (Members.values? members).bind ofMembers?
      let others ← Members.tables? rest
      some (table :: others)

end

end PrismaZod.Toml
