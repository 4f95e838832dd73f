import PrismaZod.Datamodel.Generator
import PrismaZod.Generate
import PrismaZod.Protocol.Manifest
import PrismaZod.Protocol.Request
import PrismaZod.Protocol.Response
import PrismaZod.Text.Blank

/-!
# Serving requests

Requests come one a line, and every line that is not blank is answered with one
line.  A line ends with a line feed, before which a carriage return is no part
of it; the last line needs no end.  A request that fails is answered like any
other, and only bytes that are no text end the service.
-/

namespace PrismaZod

variable {m : Type → Type} [Monad m] [Host m]

/-- Generate what the parameters of a request ask for, or say why not. -/
def generateFor (parameters : Json) : m (Except String Unit) := do
  match GeneratorOptions.ofParameters parameters with
  | .error fault => pure (.error fault.message)
  | .ok options =>
      match ← generate options.dmmf.datamodel (.ofGenerator options.generator) with
      | .error failure => pure (.error failure.message)
      | .ok _ => pure (.ok ())

def Request.perform (request : Request) : m Outcome := do
  Host.report (.request request.method)
  if request.method = "getManifest" then
    pure (.result (.object [("manifest", Manifest.standard.json)]))
  else if request.method = "generate" then
    match ← generateFor request.parameters with
    | .ok () => pure (.result .null)
    | .error message =>
        Host.report (.failed message)
        pure (.error .generation message)
  else pure (.error .methodNotFound ("method not found: " ++ request.method))

/-- The answer to a line; blank lines have none. -/
def answer? (line : String) : m (Option Response) := do
  if Text.isBlankText line then pure none
  else
    match Request.ofLine line with
    | .error fault =>
        pure (some ⟨.null, .error .parse ("invalid request: " ++ fault.message)⟩)
    | .ok request =>
        let outcome ← request.perform
        pure (some ⟨request.id, outcome⟩)

namespace Framing

def lineFeed : UInt8 := 0x0A

def carriageReturn : UInt8 := 0x0D

def dropReturn (line : List UInt8) : List UInt8 :=
  if line.getLast? = some carriageReturn then line.dropLast else line

/-- The lines among pieces that stand between line feeds. What follows the last
line feed is a line only if it is not empty. -/
def ofPieces : List (List UInt8) → List (List UInt8)
  | [] => []
  | [last] => if last.isEmpty then [] else [last]
  | piece :: next :: rest => dropReturn piece :: ofPieces (next :: rest)

def lines (input : List UInt8) : List (List UInt8) :=
  ofPieces (Text.splitAt lineFeed input)

def text? (line : List UInt8) : Option String :=
  String.fromUTF8? ⟨line.toArray⟩

end Framing

/-- The answers given, and whether the input was served to its end. -/
structure Service where
  responses : List Response
  complete : Bool
deriving Repr, Inhabited

/-- Answer lines in order, up to one that is no text. -/
def serveLines : List (List UInt8) → m Service
  | [] => pure ⟨[], true⟩
  | line :: rest =>
      match Framing.text? line with
      | none => pure ⟨[], false⟩
      | some text => do
          let first ← answer? text
          let others ← serveLines rest
          pure { others with responses := first.toList ++ others.responses }

def serve (input : List UInt8) : m Service :=
  serveLines (Framing.lines input)

end PrismaZod
