import PrismaZod.Text.Split

/-!
# File paths

A path is a text of segments between slashes.  It is kept as it was given: how
it is written shows in messages, while two paths are the same if their
components are.
-/

namespace PrismaZod

/-- A path as it is written. -/
structure Path where
  text : String
deriving DecidableEq, Repr, Inhabited

namespace Path

/-- What a path is made of. -/
inductive Component
  | root
  /-- The directory itself, at the front of a relative path only. -/
  | here
  | parent
  | named (name : String)
deriving DecidableEq, Repr, Inhabited

def isAbsolute (path : Path) : Bool :=
  path.text.toList.head? == some '/'

def segments (path : Path) : List String :=
  (Text.splitAt '/' path.text.toList).map String.ofList

/-- The component of a segment that is not the first; an empty segment and a
dot are none. -/
def component? (segment : String) : Option Component :=
  if segment = "" ∨ segment = "." then none
  else if segment = ".." then some .parent
  else some (.named segment)

def components (path : Path) : List Component :=
  if path.isAbsolute then .root :: path.segments.filterMap component?
  else
    match path.segments with
    | "." :: rest => .here :: rest.filterMap component?
    | all => all.filterMap component?

def same (left right : Path) : Bool :=
  left.components == right.components

/-- A name inside a directory. An absolute name stands for itself, and no
second slash is put between the two. -/
def join (directory : Path) (name : String) : Path :=
  if name.toList.head? = some '/' then ⟨name⟩
  else if directory.text = "" ∨ directory.text.toList.getLast? = some '/' then
    ⟨directory.text ++ name⟩
  else ⟨directory.text ++ "/" ++ name⟩

/-- The segment in front of the others is no component of the path. -/
def isIdle (absolute : Bool) (segment : String) (before : List String) : Bool :=
  segment == "" || (segment == "." && (absolute || !before.isEmpty))

/-- Leave out the segments at the end that are no components. Segments are
listed from the end. -/
def dropIdle (absolute : Bool) : List String → List String
  | [] => []
  | segment :: before =>
      if isIdle absolute segment before then dropIdle absolute before
      else segment :: before

/-- The path with the given segments, listed from the end. -/
def ofReversed (absolute : Bool) (segments : List String) : Path :=
  if segments.isEmpty && absolute then ⟨"/"⟩ else ⟨"/".intercalate segments.reverse⟩

/-- The directories that contain what the segments lead to, listed like them
from the end. -/
def enclosing (absolute : Bool) : List String → List Path
  | [] => []
  | segment :: before =>
      if isIdle absolute segment before then enclosing absolute before
      else ofReversed absolute (dropIdle absolute before) :: enclosing absolute before

/-- The directories that contain the path, innermost first. The last one is
the root, or the empty path for the working directory. -/
def ancestors (path : Path) : List Path :=
  enclosing path.isAbsolute path.segments.reverse

end Path

end PrismaZod
