import PrismaZod.Config
import PrismaZod.Json.Printer

/-!
# The manifest of the generator
-/

namespace PrismaZod

structure Manifest where
  prettyName : String
  defaultOutput : String
deriving DecidableEq, Repr, Inhabited

namespace Manifest

def standard : Manifest := ⟨"Prisma to Zod", Config.defaultOutput⟩

def json (manifest : Manifest) : Json :=
  .object (Table.ofList [
    ("prettyName", .string manifest.prettyName),
    ("defaultOutput", .string manifest.defaultOutput)])

def pretty (manifest : Manifest) : String :=
  let member (key value : String) := "  " ++ Json.stringText key ++ ": " ++ Json.stringText value
  "\x7b\n" ++ member "prettyName" manifest.prettyName ++ ",\n" ++
    member "defaultOutput" manifest.defaultOutput ++ "\n\x7d"

end Manifest

end PrismaZod
