import PrismaZod.Path
import PrismaZod.Table

/-!
# Directory trees

A disk holds directories and files, each at a place: the names that lead to it
from the root.  The root is always there.  Paths are followed segment by
segment from the root or from the working directory, every segment but the last
through a directory that exists.
-/

namespace PrismaZod

/-- Why an operation on a path fails. -/
inductive FileFault
  | notFound
  | alreadyExists
  | notDirectory
  | isDirectory
  | nameTooLong
  | nulByte
  | notUtf8
  /-- A fault that directory trees alone do not have. -/
  | other (text : String)
deriving DecidableEq, Repr, Inhabited

def FileFault.message : FileFault → String
  | notFound => "No such file or directory (os error 2)"
  | alreadyExists => "File exists (os error 17)"
  | notDirectory => "Not a directory (os error 20)"
  | isDirectory => "Is a directory (os error 21)"
  | nameTooLong => "File name too long (os error 36)"
  | nulByte => "file name contained an unexpected NUL byte"
  | notUtf8 => "stream did not contain valid UTF-8"
  | other text => text

/-- What is at a place. -/
inductive Entry
  | directory
  | file (contents : ByteArray)
deriving Inhabited

/-- The names that lead from the root to an entry. -/
abbrev Place := List String

/-- Everything on a disk but the root, and the working directory. -/
structure Disk where
  entries : List (Place × Entry)
  workingDirectory : Place
deriving Inhabited

namespace Disk

def lookup (place : Place) : List (Place × Entry) → Option Entry
  | [] => none
  | (head, entry) :: rest => if place = head then some entry else lookup place rest

/-- Put an entry at a place, in the stead of what was there. -/
def replace (place : Place) (entry : Entry) : List (Place × Entry) → List (Place × Entry)
  | [] => [(place, entry)]
  | (head, held) :: rest =>
      if place = head then (place, entry) :: rest
      else (head, held) :: replace place entry rest

def get? (disk : Disk) (place : Place) : Option Entry :=
  if place = [] then some .directory else lookup place disk.entries

def set (disk : Disk) (place : Place) (entry : Entry) : Disk :=
  { disk with entries := replace place entry disk.entries }

theorem lookup_replace (place other : Place) (entry : Entry)
    (entries : List (Place × Entry)) :
    lookup other (replace place entry entries) =
      if other = place then some entry else lookup other entries := by
  induction entries with
  | nil => simp [replace, lookup]
  | cons head rest ih =>
      obtain ⟨headPlace, held⟩ := head
      unfold replace
      split
      · rename_i equal
        subst equal
        by_cases same : other = place <;> simp [lookup, same]
      · rename_i different
        by_cases atHead : other = headPlace
        · subst atHead
          simp [lookup, Ne.symm different]
        · simp [lookup, ih, atHead]

/-- Putting an entry at a place changes this place only. -/
theorem get?_set (disk : Disk) (place other : Place) (entry : Entry)
    (notRoot : place ≠ []) :
    (disk.set place entry).get? other =
      if other = place then some entry else disk.get? other := by
  unfold get? set
  by_cases root : other = []
  · subst root
    simp [Ne.symm notRoot]
  · simp [root, lookup_replace]

def nameLimit : Nat := 255

/-- The number of bytes from which on a path is too long. -/
def pathLimit : Nat := 4096

/-- Go through a segment of a path, starting from a directory. -/
def enter (disk : Disk) (place : Place) (segment : String) : Except FileFault Place :=
  if segment = "" ∨ segment = "." then .ok place
  else if segment = ".." then .ok place.dropLast
  else if nameLimit < segment.utf8ByteSize then .error .nameTooLong
  else
    match disk.get? (place ++ [segment]) with
    | none => .error .notFound
    | some (.file _) => .error .notDirectory
    | some .directory => .ok (place ++ [segment])

/-- What a path leads to, once all but its last segment has been followed. -/
inductive Target
  /-- A directory that the path reaches without a name at its end. -/
  | directory
  /-- A name in a directory, and whether slashes follow it. -/
  | name (directory : Place) (name : String) (slash : Bool)
deriving DecidableEq, Repr, Inhabited

/-- Follow a path up to its last segment. -/
def locate (disk : Disk) (path : Path) : Except FileFault Target :=
  if '\x00' ∈ path.text.toList then .error .nulByte
  else if path.text = "" then .error .notFound
  else if pathLimit ≤ path.text.utf8ByteSize then .error .nameTooLong
  else
    let start := if path.isAbsolute then [] else disk.workingDirectory
    let segments := path.segments.reverse
    match segments.dropWhile (· = "") with
    | [] => .ok .directory
    | last :: before =>
        match before.reverse.foldlM disk.enter start with
        | .error fault => .error fault
        | .ok place =>
            if last = "." ∨ last = ".." then .ok .directory
            else .ok (.name place last (segments.head? == some ""))

def child? (disk : Disk) (directory : Place) (name : String) :
    Except FileFault (Option Entry) :=
  if nameLimit < name.utf8ByteSize then .error .nameTooLong
  else .ok (disk.get? (directory ++ [name]))

def isDirectory (disk : Disk) (path : Path) : Bool :=
  match disk.locate path with
  | .ok .directory => true
  | .ok (.name place name _) =>
      match disk.child? place name with
      | .ok (some .directory) => true
      | _ => false
  | .error _ => false

def makeDirectory (disk : Disk) (path : Path) : Except FileFault Disk :=
  match disk.locate path with
  | .error fault => .error fault
  | .ok .directory => .error .alreadyExists
  | .ok (.name place name _) =>
      match disk.child? place name with
      | .error fault => .error fault
      | .ok (some _) => .error .alreadyExists
      | .ok none => .ok (disk.set (place ++ [name]) .directory)

def readFile (disk : Disk) (path : Path) : Except FileFault ByteArray :=
  match disk.locate path with
  | .error fault => .error fault
  | .ok .directory => .error .isDirectory
  | .ok (.name place name slash) =>
      match disk.child? place name with
      | .error fault => .error fault
      | .ok none => .error .notFound
      | .ok (some .directory) => .error .isDirectory
      | .ok (some (.file contents)) =>
          if slash then .error .notDirectory else .ok contents

/-- Write a file, new or in the stead of the file that is there. -/
def writeFile (disk : Disk) (path : Path) (contents : ByteArray) : Except FileFault Disk :=
  match disk.locate path with
  | .error fault => .error fault
  | .ok .directory => .error .isDirectory
  | .ok (.name place name slash) =>
      if slash then .error .isDirectory
      else
        match disk.child? place name with
        | .error fault => .error fault
        | .ok (some .directory) => .error .isDirectory
        | .ok _ => .ok (disk.set (place ++ [name]) (.file contents))

/-- Make a directory in one that exists, unless it is there already. -/
def ensureDirectory (disk : Disk) (path : Path) : Except FileFault Unit × Disk :=
  match disk.makeDirectory path with
  | .ok made => (.ok (), made)
  | .error fault => (if disk.isDirectory path then .ok () else .error fault, disk)

/-- Make a directory and, where they are missing, the directories that contain
it, given innermost first. The empty path needs no directory. Directories made
before a failure stay. -/
def createWithin (disk : Disk) (path : Path) : List Path → Except FileFault Unit × Disk
  | [] => if path.text = "" then (.ok (), disk) else disk.ensureDirectory path
  | parent :: beyond =>
      if path.text = "" then (.ok (), disk)
      else
        match disk.makeDirectory path with
        | .error .notFound =>
            match createWithin disk parent beyond with
            | (.error fault, left) => (.error fault, left)
            | (.ok (), inside) => inside.ensureDirectory path
        | _ => disk.ensureDirectory path

/-- Make a directory with all that contain it; that it is there already is no
failure. -/
def createDirectories (disk : Disk) (path : Path) : Except FileFault Unit × Disk :=
  disk.createWithin path path.ancestors

end Disk

end PrismaZod
