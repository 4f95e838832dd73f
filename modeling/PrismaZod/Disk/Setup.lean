import PrismaZod.Disk.Basic

/-!
# Setting up and listing a disk
-/

namespace PrismaZod.Disk

/-- A disk with nothing but an empty working directory. -/
def fresh : Disk := ⟨[(["work"], .directory)], ["work"]⟩

def names (path : Path) : List String :=
  path.components.filterMap fun
    | .named name => some name
    | _ => none

/-- Put directories at a place and at the places around it. -/
def withDirectories (disk : Disk) (place : Place) : Disk :=
  (List.range place.length).foldl (fun disk count => disk.set (place.take (count + 1)) .directory)
    disk

/-- Put an entry at a path below the working directory, with the directories
that contain it. -/
def put (disk : Disk) (path : Path) (entry : Entry) : Disk :=
  let place := disk.workingDirectory ++ names path
  match entry with
  | .directory => disk.withDirectories place
  | .file contents => (disk.withDirectories place.dropLast).set place (.file contents)

/-- Everything below the working directory, sorted by its path; directories
have a slash at the end and no contents. -/
def listing (disk : Disk) : Table (Option ByteArray) :=
  Table.ofList <| disk.entries.filterMap fun item =>
    let inside := item.1.drop disk.workingDirectory.length
    if disk.workingDirectory.isPrefixOf item.1 && !inside.isEmpty then
      match item.2 with
      | .directory => some ("/".intercalate inside ++ "/", none)
      | .file contents => some ("/".intercalate inside, some contents)
    else none

end PrismaZod.Disk
