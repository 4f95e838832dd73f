import PrismaZod.Disk.Setup
import PrismaZod.Proofs.Disk.Place

/-!
# Trees of directories

Everything on a disk is in a directory of it.  Where a path can be followed, it
leads to the place that its segments name, and it still leads there when more
is put on the disk.
-/

namespace PrismaZod.Disk

/-- Everything is in a directory, and so is the work. -/
structure IsTree (disk : Disk) : Prop where
  parent : ∀ place name, disk.get? (place ++ [name]) ≠ none → disk.get? place = some .directory
  working : disk.get? disk.workingDirectory = some .directory

/-- Nothing is removed or turned from a directory into a file or back; files may
have other contents. -/
structure Keeps (before after : Disk) : Prop where
  working : after.workingDirectory = before.workingDirectory
  directory : ∀ place, before.get? place = some .directory → after.get? place = some .directory
  file : ∀ place contents, before.get? place = some (.file contents) →
    ∃ current, after.get? place = some (.file current)

/-- The place of the name that a path leads to, if it can be followed. -/
def resolve? (disk : Disk) (path : Path) : Option Place :=
  match disk.locate path with
  | .ok (.name directory name _) => some (directory ++ [name])
  | _ => none

variable {disk before middle after : Disk} {path : Path}

@[simp]
theorem get?_root (disk : Disk) : disk.get? [] = some .directory := by
  simp [get?]

theorem Keeps.refl (disk : Disk) : disk.Keeps disk where
  working := rfl
  directory _ held := held
  file _ contents held := ⟨contents, held⟩

theorem Keeps.trans (first : before.Keeps middle) (second : middle.Keeps after) :
    before.Keeps after where
  working := second.working.trans first.working
  directory place held := second.directory place (first.directory place held)
  file place contents held := by
    obtain ⟨current, kept⟩ := first.file place contents held
    exact second.file place current kept

/-- What becomes of what is at a place. -/
theorem Keeps.entry (keeps : before.Keeps after) (place : Place) :
    before.get? place = none ∨
    (before.get? place = some .directory ∧ after.get? place = some .directory) ∨
    ∃ contents current, before.get? place = some (.file contents) ∧
      after.get? place = some (.file current) := by
  cases held : before.get? place with
  | none => exact .inl rfl
  | some entry =>
      cases entry with
      | directory => exact .inr (.inl ⟨rfl, keeps.directory place held⟩)
      | file contents =>
          obtain ⟨current, kept⟩ := keeps.file place contents held
          exact .inr (.inr ⟨contents, current, rfl, kept⟩)

theorem IsTree.directory_dropLast (tree : disk.IsTree) {place : Place}
    (held : disk.get? place = some .directory) : disk.get? place.dropLast = some .directory := by
  rcases List.eq_nil_or_concat place with rfl | ⟨around, name, rfl⟩
  · exact held
  · rw [List.concat_eq_append, List.dropLast_concat]
    refine tree.parent around name ?_
    rw [← List.concat_eq_append, held]
    simp

theorem IsTree.directory_start (tree : disk.IsTree) (path : Path) :
    disk.get? (disk.start path) = some .directory := by
  rw [start]
  split
  · exact disk.get?_root
  · exact tree.working

/-- Putting a new directory, or a file where no directory is, into a directory
keeps everything in its directory. -/
theorem IsTree.set (tree : disk.IsTree) {place : Place} {entry : Entry} (notRoot : place ≠ [])
    (around : disk.get? place.dropLast = some .directory)
    (kind : entry = .directory ∨ disk.get? place ≠ some .directory) :
    (disk.set place entry).IsTree := by
  have directories (held : Place) (isDirectory : disk.get? held = some .directory) :
      (disk.set place entry).get? held = some .directory := by
    rw [get?_set disk place held entry notRoot]
    split
    · rename_i same
      rcases kind with rfl | notDirectory
      · rfl
      · exact (notDirectory (same ▸ isDirectory)).elim
    · exact isDirectory
  refine ⟨fun inner name held => ?_, directories _ tree.working⟩
  rw [get?_set disk place (inner ++ [name]) entry notRoot] at held
  split at held
  · rename_i same
    rw [← same, List.dropLast_concat] at around
    exact directories inner around
  · exact directories inner (tree.parent inner name held)

/-- Putting a file where no directory is removes nothing. -/
theorem keeps_set {place : Place} (contents : ByteArray) (notRoot : place ≠ [])
    (free : disk.get? place ≠ some .directory) : disk.Keeps (disk.set place (.file contents)) := by
  have entries (other : Place) := get?_set disk place other (.file contents) notRoot
  refine ⟨rfl, fun other held => ?_, fun other current held => ?_⟩
  · have elsewhere : other ≠ place := by
      rintro rfl
      exact free held
    rw [entries, if_neg elsewhere, held]
  · rw [entries]
    split
    · exact ⟨contents, rfl⟩
    · exact ⟨current, held⟩

/-! ## Following a path -/

theorem enter_eq_ok (tree : disk.IsTree) {place next : Place} {segment : String}
    (held : disk.get? place = some .directory) (entered : disk.enter place segment = .ok next) :
    next = follow place segment ∧ disk.get? next = some .directory := by
  rw [enter] at entered
  rw [follow]
  split at entered
  · rename_i idle
    cases entered
    exact ⟨(if_pos idle).symm, held⟩
  · rename_i notIdle
    rw [if_neg notIdle]
    split at entered
    · rename_i isParent
      cases entered
      exact ⟨(if_pos isParent).symm, tree.directory_dropLast held⟩
    · rename_i notParent
      rw [if_neg notParent]
      split at entered
      · cases entered
      · split at entered
        · cases entered
        · cases entered
        · rename_i isDirectory
          cases entered
          exact ⟨rfl, isDirectory⟩

theorem foldlM_enter_eq_ok (tree : disk.IsTree) {segments : List String} {place next : Place}
    (held : disk.get? place = some .directory)
    (entered : segments.foldlM disk.enter place = .ok next) :
    next = segments.foldl follow place ∧ disk.get? next = some .directory := by
  induction segments generalizing place with
  | nil =>
      cases entered
      exact ⟨rfl, held⟩
  | cons segment segments ih =>
      rw [List.foldlM_cons] at entered
      cases step : disk.enter place segment with
      | error fault =>
          rw [step] at entered
          cases entered
      | ok inner =>
          rw [step] at entered
          obtain ⟨followed, isDirectory⟩ := enter_eq_ok tree held step
          rw [List.foldl_cons, ← followed]
          exact ih isDirectory entered

theorem Keeps.enter (keeps : before.Keeps after) {place next : Place} {segment : String}
    (entered : before.enter place segment = .ok next) : after.enter place segment = .ok next := by
  rw [Disk.enter] at entered ⊢
  split
  · simpa [*] using entered
  · split
    · simpa [*] using entered
    · split
      · simp [*] at entered
      · rename_i notIdle notParent short
        rw [if_neg notIdle, if_neg notParent, if_neg short] at entered
        split at entered
        · cases entered
        · cases entered
        · rename_i isDirectory
          simp only [keeps.directory _ isDirectory]
          exact entered

theorem Keeps.foldlM_enter (keeps : before.Keeps after) {segments : List String}
    {place next : Place} (entered : segments.foldlM before.enter place = .ok next) :
    segments.foldlM after.enter place = .ok next := by
  induction segments generalizing place with
  | nil => exact entered
  | cons segment segments ih =>
      rw [List.foldlM_cons] at entered ⊢
      cases step : before.enter place segment with
      | error fault =>
          rw [step] at entered
          cases entered
      | ok inner =>
          rw [step] at entered
          rw [keeps.enter step]
          exact ih entered

theorem foldl_follow_empty {segments : List String} (empty : ∀ segment ∈ segments, segment = "")
    (place : Place) : segments.foldl follow place = place := by
  induction segments with
  | nil => rfl
  | cons segment segments ih =>
      rw [List.foldl_cons, empty segment List.mem_cons_self, follow_empty]
      exact ih fun other among => empty other (List.mem_cons_of_mem segment among)

theorem foldlM_enter_empty {segments : List String} (empty : ∀ segment ∈ segments, segment = "")
    (place : Place) : segments.foldlM disk.enter place = .ok place := by
  induction segments with
  | nil => rfl
  | cons segment segments ih =>
      have stays : disk.enter place segment = .ok place := by
        rw [empty segment List.mem_cons_self, enter, if_pos (.inl rfl)]
      rw [List.foldlM_cons, stays]
      exact ih fun other among => empty other (List.mem_cons_of_mem segment among)

/-- How a path is followed, on any disk: it fails by how it is written, or it
is the place that it is followed from, or it leads through the segments before
its last one. -/
theorem locate_forms (path : Path) :
    (∃ fault, ∀ disk : Disk, disk.locate path = .error fault) ∨
    (∀ disk : Disk,
      disk.locate path = .ok .directory ∧ disk.placeOf path = disk.start path ∧
      path.segments.foldlM disk.enter (disk.start path) = .ok (disk.start path)) ∨
    ∃ (before : List String) (last : String) (slash : Bool), last ≠ "" ∧ ∀ disk : Disk,
      disk.placeOf path = follow (before.foldl follow (disk.start path)) last ∧
      disk.locate path =
        (match before.foldlM disk.enter (disk.start path) with
        | .error fault => .error fault
        | .ok place =>
            if last = "." ∨ last = ".." then .ok .directory else .ok (.name place last slash)) ∧
      path.segments.foldlM disk.enter (disk.start path) =
        before.foldlM disk.enter (disk.start path) >>= (disk.enter · last) := by
  by_cases nul : '\x00' ∈ path.text.toList
  · exact .inl ⟨.nulByte, fun disk => by rw [locate, if_pos nul]⟩
  by_cases empty : path.text = ""
  · exact .inl ⟨.notFound, fun disk => by rw [locate, if_neg nul, if_pos empty]⟩
  by_cases long : pathLimit ≤ path.text.utf8ByteSize
  · exact .inl ⟨.nameTooLong, fun disk => by rw [locate, if_neg nul, if_neg empty, if_pos long]⟩
  -- Slashes at the end leave empty segments, which lead nowhere else.
  have segments : path.segments =
      (path.segments.reverse.dropWhile (· = "")).reverse ++
        (path.segments.reverse.takeWhile (· = "")).reverse := by
    rw [← List.reverse_append, List.takeWhile_append_dropWhile, List.reverse_reverse]
  have allEmpty : ∀ segment ∈ (path.segments.reverse.takeWhile (· = "")).reverse,
      segment = "" := by
    intro segment among
    have all := List.all_takeWhile (p := (· = "")) (l := path.segments.reverse)
    rw [List.all_eq_true] at all
    simpa using all segment (List.mem_reverse.mp among)
  have idle (place : Place) := foldl_follow_empty allEmpty place
  have stays (disk : Disk) (place : Place) :
      (path.segments.reverse.takeWhile (· = "")).reverse.foldlM disk.enter place = .ok place :=
    foldlM_enter_empty allEmpty place
  cases kept : path.segments.reverse.dropWhile (· = "") with
  | nil =>
      refine .inr (.inl fun disk => ⟨?_, ?_, ?_⟩)
      · simp only [locate, if_neg nul, if_neg empty, if_neg long, kept]
      · rw [placeOf, segments, List.foldl_append, idle, kept, List.reverse_nil, List.foldl_nil]
      · rw [segments, kept, List.reverse_nil, List.nil_append, stays]
  | cons last before =>
      have notEmpty : last ≠ "" := by
        have stops := List.head?_dropWhile_not (· = "") path.segments.reverse
        simpa [kept] using stops
      refine .inr (.inr ⟨before.reverse, last, path.segments.reverse.head? == some "", notEmpty,
        fun disk => ⟨?_, ?_, ?_⟩⟩)
      · rw [placeOf, segments, List.foldl_append, idle, kept, List.reverse_cons,
          List.foldl_append, List.foldl_cons, List.foldl_nil]
      · cases walked : before.reverse.foldlM disk.enter (disk.start path) <;>
          simp only [start] at walked <;>
          simp only [locate, if_neg nul, if_neg empty, if_neg long, kept, walked]
      · rw [segments, kept, List.reverse_cons, List.append_assoc, List.foldlM_append]
        congr 1
        funext place
        rw [List.singleton_append, List.foldlM_cons]
        simp only [stays]
        exact bind_pure (disk.enter place last)

theorem get?_of_locate_directory (tree : disk.IsTree)
    (located : disk.locate path = .ok .directory) :
    disk.get? (disk.placeOf path) = some .directory := by
  rcases locate_forms path with ⟨fault, fails⟩ | here | ⟨before, last, slash, notEmpty, form⟩
  · rw [fails disk] at located
    cases located
  · rw [(here disk).2.1]
    exact tree.directory_start path
  · obtain ⟨place, locates, -⟩ := form disk
    rw [locates] at located
    cases walked : before.foldlM disk.enter (disk.start path) with
    | error fault =>
        rw [walked] at located
        cases located
    | ok around =>
        obtain ⟨followed, isDirectory⟩ :=
          foldlM_enter_eq_ok tree (tree.directory_start path) walked
        simp only [walked] at located
        rw [place, ← followed]
        split at located
        · rename_i dots
          rcases dots with rfl | rfl
          · simpa [follow] using isDirectory
          · simpa [follow] using tree.directory_dropLast isDirectory
        · cases located

theorem placeOf_of_locate_name (tree : disk.IsTree) {directory : Place} {name : String}
    {slash : Bool} (located : disk.locate path = .ok (.name directory name slash)) :
    disk.placeOf path = directory ++ [name] ∧ disk.get? directory = some .directory := by
  rcases locate_forms path with ⟨fault, fails⟩ | here | ⟨before, last, trailing, notEmpty, form⟩
  · rw [fails disk] at located
    cases located
  · rw [(here disk).1] at located
    cases located
  · obtain ⟨place, locates, -⟩ := form disk
    rw [locates] at located
    cases walked : before.foldlM disk.enter (disk.start path) with
    | error fault =>
        rw [walked] at located
        cases located
    | ok around =>
        obtain ⟨followed, isDirectory⟩ :=
          foldlM_enter_eq_ok tree (tree.directory_start path) walked
        simp only [walked] at located
        split at located
        · cases located
        · rename_i noDots
          cases located
          rw [place, ← followed]
          have named := follow_name directory notEmpty (fun here => noDots (.inl here))
            (fun parent => noDots (.inr parent))
          exact ⟨named, isDirectory⟩

theorem placeOf_of_resolve? (tree : disk.IsTree) {place : Place}
    (resolved : disk.resolve? path = some place) : disk.placeOf path = place := by
  rw [resolve?] at resolved
  split at resolved
  · rename_i directory name slash located
    cases resolved
    exact (placeOf_of_locate_name tree located).1
  · cases resolved

/-- A path that can be followed leads to the same when more is on the disk. -/
theorem Keeps.locate (keeps : before.Keeps after) {target : Target}
    (located : before.locate path = .ok target) : after.locate path = .ok target := by
  rcases locate_forms path with ⟨fault, fails⟩ | here | ⟨front, last, slash, notEmpty, form⟩
  · rw [fails before] at located
    cases located
  · rw [(here before).1] at located
    rw [(here after).1, located]
  · have sameStart := start_congr keeps.working path
    rw [(form before).2.1] at located
    rw [(form after).2.1, sameStart]
    cases walked : front.foldlM before.enter (before.start path) with
    | error fault =>
        rw [walked] at located
        cases located
    | ok around =>
        rw [walked] at located
        rw [keeps.foldlM_enter walked]
        exact located

theorem Keeps.resolve? (keeps : before.Keeps after) {place : Place}
    (resolved : before.resolve? path = some place) : after.resolve? path = some place := by
  rw [Disk.resolve?] at resolved ⊢
  split at resolved
  · rename_i directory name slash located
    rw [keeps.locate located]
    exact resolved
  · cases resolved

theorem isTree_fresh : fresh.IsTree := by
  refine ⟨fun place name held => ?_, by simp [fresh, get?, lookup]⟩
  cases place with
  | nil => rfl
  | cons head rest =>
      have nothing : fresh.get? (head :: rest ++ [name]) = none := by
        simp [fresh, get?, lookup]
      exact (held nothing).elim

end PrismaZod.Disk
