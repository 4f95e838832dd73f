import PrismaZod.CommandLine.Run

/-!
# The program

The machine that the program runs on is the host.  Events from information up
go to the standard error stream, where the responses of a service go as well.
-/

namespace PrismaZod.Program

/-- The fault that an error of the machine tells of. -/
def faultOf : IO.Error → FileFault
  | .noFileOrDirectory _ _ _ => .notFound
  | .alreadyExists _ _ _ => .alreadyExists
  | .inappropriateType _ code _ => if code = 20 then .notDirectory else .isDirectory
  | error => .other (toString error)

def attempt {α : Type} (action : IO α) : IO (Except FileFault α) := do
  try
    let value ← action
    return .ok value
  catch error => return .error (faultOf error)

/-- Make a directory in one that exists, unless it is there already. -/
def ensureDirectory (path : Path) : IO (Except FileFault Unit) := do
  match ← attempt (IO.FS.createDir path.text) with
  | .ok () => return .ok ()
  | .error fault =>
      match ← attempt (IO.FS.createDirAll path.text) with
      | .ok () => return .ok ()
      | .error _ => return .error fault

/-- Make a directory and, where they are missing, the directories that contain
it, given innermost first. -/
def createWithin (path : Path) : List Path → IO (Except FileFault Unit)
  | [] => if path.text = "" then pure (.ok ()) else ensureDirectory path
  | parent :: beyond => do
      if path.text = "" then return .ok ()
      match ← attempt (IO.FS.createDir path.text) with
      | .error .notFound =>
          match ← createWithin parent beyond with
          | .ok () => ensureDirectory path
          | .error fault => return .error fault
      | _ => ensureDirectory path

instance : Host IO where
  readFile path := attempt (IO.FS.readBinFile path.text)
  createDirectories path := createWithin path path.ancestors
  writeFile path contents := attempt (IO.FS.writeBinFile path.text contents)
  report event := if event.level = .debug then pure () else IO.eprintln event.line

/-- Read to the end of a line or of the stream; the flag says which it was. -/
partial def readLine (stream : IO.FS.Stream) (line : ByteArray) : IO (ByteArray × Bool) := do
  let next ← stream.read 1
  match next.toList with
  | [] => return (line, false)
  | byte :: _ =>
      if byte = Framing.lineFeed then return (line, true)
      else readLine stream (line.push byte)

/-- Answer lines as they come, and tell whether all of them were text. -/
partial def answerLines (stream : IO.FS.Stream) : IO Bool := do
  let (bytes, ended) ← readLine stream .empty
  if bytes.isEmpty && !ended then return true
  let line := if ended then Framing.dropReturn bytes.toList else bytes.toList
  match Framing.text? line with
  | none => return false
  | some text =>
      match ← answer? text with
      | some response => IO.eprintln response.text
      | none => pure ()
      answerLines stream

partial def readAll (stream : IO.FS.Stream) (input : ByteArray) : IO ByteArray := do
  let next ← stream.read 65536
  if next.isEmpty then return input
  else readAll stream (input ++ next)

open CommandLine in
/-- Run a command. A service answers each line before it reads the next. -/
def perform (command : Command) : IO Ending := do
  let stream ← IO.getStdin
  match command with
  | .serve =>
      if ← answerLines stream then return .success ""
      else return .failure brokenService
  | .generate arguments =>
      let input ← if arguments.schema = "-" then readAll stream .empty else pure .empty
      (Command.generate arguments).run input.toList
  | other => other.run []

end PrismaZod.Program

open PrismaZod PrismaZod.CommandLine in
def main (arguments : List String) : IO UInt32 := do
  let ending ← match Command.ofArguments arguments with
    | .ok command => Program.perform command
    | .error .helpAsked => pure (Ending.success helpText)
    | .error fault => do
        IO.eprintln ("error: " ++ fault.message)
        pure .misuse
  IO.print ending.output
  if let some report := ending.report then IO.eprintln report.text
  return ending.code.toUInt32
