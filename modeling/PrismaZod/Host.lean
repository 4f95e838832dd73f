import PrismaZod.Disk.Basic
import PrismaZod.Event

/-!
# The host of a run

What the generator needs from the machine it runs on: reading files, making
directories, writing files, and a place to report events.  A disk with a log is
such a host; so is a real machine.
-/

namespace PrismaZod

class Host (m : Type → Type) where
  readFile : Path → m (Except FileFault ByteArray)
  createDirectories : Path → m (Except FileFault Unit)
  writeFile : Path → ByteArray → m (Except FileFault Unit)
  report : Event → m Unit

/-- A disk and the events reported so far, oldest first. -/
structure World where
  disk : Disk
  log : List Event
deriving Inhabited

namespace World

def writeFile (path : Path) (contents : ByteArray) (world : World) :
    Except FileFault Unit × World :=
  match world.disk.writeFile path contents with
  | .ok disk => (.ok (), { world with disk := disk })
  | .error fault => (.error fault, world)

def createDirectories (path : Path) (world : World) : Except FileFault Unit × World :=
  let (result, disk) := world.disk.createDirectories path
  (result, { world with disk := disk })

end World

instance : Host (StateM World) where
  readFile path := fun world => (world.disk.readFile path, world)
  createDirectories path := World.createDirectories path
  writeFile path contents := World.writeFile path contents
  report event := fun world => ((), { world with log := world.log ++ [event] })

def readText {m : Type → Type} [Monad m] [Host m] (path : Path) :
    m (Except FileFault String) := do
  match ← Host.readFile path with
  | .error fault => pure (.error fault)
  | .ok bytes =>
      match String.fromUTF8? bytes with
      | some text => pure (.ok text)
      | none => pure (.error .notUtf8)

end PrismaZod
