import PrismaZod.Config
import PrismaZod.Datamodel.Document

/-!
# Options of a generator

What the host sends with a request to generate: the generator block of the
schema and the document with the datamodel.
-/

namespace PrismaZod

open Json

/-- A value that may come from a variable of the environment. -/
structure EnvValue where
  value : Option String
  fromEnvVar : Option String
deriving DecidableEq, Repr, Inhabited

namespace EnvValue

def recordType : RecordType EnvValue where
  name := "EnvValue"
  members := [
    .optional "value" (asOption asString) fun value entry => { entry with value := value },
    .optional "fromEnvVar" (asOption asString)
      fun value entry => { entry with fromEnvVar := value }]
  blank := ⟨none, none⟩

def decode : Decoder EnvValue := recordType.decode

end EnvValue

/-- The generator block of a schema. -/
structure GeneratorBlock where
  name : String
  output : Option EnvValue
  config : RawConfig
deriving DecidableEq, Repr, Inhabited

namespace GeneratorBlock

/-- The block that sets nothing. -/
def empty : GeneratorBlock := ⟨"", none, []⟩

def recordType : RecordType GeneratorBlock where
  name := "GeneratorConfig"
  members := [
    .optional "name" asString fun value block => { block with name := value },
    .optional "output" (asOption EnvValue.decode)
      fun value block => { block with output := value },
    .optional "config" RawConfig.decode fun value block => { block with config := value }]
  blank := empty

def decode : Decoder GeneratorBlock := recordType.decode

def outputPath (block : GeneratorBlock) : Option String :=
  block.output.bind (·.value)

end GeneratorBlock

def Config.ofGenerator (block : GeneratorBlock) : Config :=
  .ofRaw block.config block.outputPath

/-- A document whose datamodel is under its own key. -/
structure Document where
  datamodel : Datamodel
deriving Repr, Inhabited

namespace Document

def recordType : RecordType Document where
  name := "Document"
  members := [
    .needed "datamodel" Datamodel.decode
      fun value document => { document with datamodel := value }]
  blank := ⟨.empty⟩

def decode : Decoder Document := recordType.decode

end Document

/-- The options of a request to generate. -/
structure GeneratorOptions where
  generator : GeneratorBlock
  dmmf : Document
  schemaPath : Option String
deriving Repr, Inhabited

namespace GeneratorOptions

def recordType : RecordType GeneratorOptions where
  name := "GeneratorOptions"
  members := [
    .needed "generator" GeneratorBlock.decode
      fun value options => { options with generator := value },
    .needed "dmmf" Document.decode fun value options => { options with dmmf := value },
    .optional "schemaPath" (asOption asString)
      fun value options => { options with schemaPath := value }]
  blank := ⟨.empty, ⟨.empty⟩, none⟩

def decode : Decoder GeneratorOptions := recordType.decode

def ofParameters (parameters : Json) : Except DocumentFault GeneratorOptions :=
  (decode parameters).mapError .invalid

end GeneratorOptions

end PrismaZod
