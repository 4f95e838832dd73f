import PrismaZod.Proofs.Json.Record
import PrismaZod.Proofs.Protocol.Exchange

/-!
# Requests and documents

The parameters of a request to generate are read as a record, and a document on
its own is searched for its datamodel.  Where the parts beside the datamodel can
be read, both come to the same datamodel or to the same fault, so that a request
does what generating the document does.
-/

namespace PrismaZod

open Json

/-- Generate what a document holds, or say why not. -/
def generateDocument {m : Type → Type} [Monad m] [Host m] (document : Json) (config : Config) :
    m (Except String Unit) := do
  match Datamodel.ofDocument document with
  | .error fault => pure (.error fault.message)
  | .ok datamodel =>
      match ← generate datamodel config with
      | .error failure => pure (.error failure.message)
      | .ok _ => pure (.ok ())

/-- What a request to generate is told of its run. -/
def Outcome.ofGenerated : Except String Unit → Outcome
  | .ok () => .result .null
  | .error message => .error .generation message

/-- A request to generate with some parameters is answered with what comes of
generating them as a document, and leaves the disk that this leaves. -/
def AnsweredAsDocument (parameters : Json) (config : Config) (before : Disk) (text : String)
    (response : Response) (after : Disk) : Prop :=
  ∀ id, Request.ofLine text = .ok ⟨"generate", parameters, id⟩ →
    response = ⟨id, .ofGenerated (before.result (generateDocument parameters config))⟩ ∧
      after = before.left (generateDocument parameters config)

/-! ## What parameters and documents hold -/

variable {members inner entries : Table Json} {document : Json} {block : GeneratorBlock}

theorem Document.decode_object (sorted : Table.Sorted inner) {value : Json}
    (datamodel : inner.find? "datamodel" = some value) :
    Document.decode (.object inner) = (Datamodel.decode value).map Document.mk := by
  have entered : inner.foldlM recordType.enterEntry recordType.blank =
      (Datamodel.decode value).map Document.mk := by
    rw [RecordType.foldlM_enterEntry sorted (List.pairwise_singleton _ "datamodel") (by decide),
      List.foldlM_cons, RecordType.enterKey, datamodel]
    change ((Datamodel.decode value).map Document.mk >>= fun record => pure record) = _
    exact bind_pure _
  have nothingMissing : recordType.missing? inner = none := by
    simp [RecordType.missing?, recordType, Member.needed, datamodel]
  change recordType.ofEntries inner = _
  rw [RecordType.ofEntries, entered, nothingMissing]
  cases Datamodel.decode value <;> rfl

theorem GeneratorOptions.decode_object (sorted : Table.Sorted members) {generator : Json}
    (dmmf : members.find? "dmmf" = some document)
    (isGenerator : members.find? "generator" = some generator)
    (isBlock : GeneratorBlock.decode generator = .ok block)
    (schemaPath : ∀ value, members.find? "schemaPath" = some value →
      value = .null ∨ ∃ path, value = .string path) :
    ∃ path, GeneratorOptions.decode (.object members) =
      (Document.decode document).map fun dmmf => ⟨block, dmmf, path⟩ := by
  have increasing : ["dmmf", "generator", "schemaPath"].Pairwise (· < ·) := by decide
  have readsDocument (options : GeneratorOptions) :
      recordType.enterKey members options "dmmf" =
        (Document.decode document).map fun dmmf => { options with dmmf := dmmf } := by
    rw [RecordType.enterKey, dmmf]
    rfl
  have readsBlock (options : GeneratorOptions) :
      recordType.enterKey members options "generator" =
        .ok { options with generator := block } := by
    rw [RecordType.enterKey, isGenerator]
    change (GeneratorBlock.decode generator).map _ = _
    rw [isBlock]
    rfl
  have readsPath : ∃ path, ∀ dmmf, recordType.enterKey members ⟨block, dmmf, none⟩ "schemaPath" =
      .ok ⟨block, dmmf, path⟩ := by
    simp only [RecordType.enterKey]
    cases found : members.find? "schemaPath" with
    | none => exact ⟨none, fun dmmf => rfl⟩
    | some value =>
        rcases schemaPath value found with rfl | ⟨path, rfl⟩
        · exact ⟨none, fun dmmf => rfl⟩
        · exact ⟨some path, fun dmmf => rfl⟩
  obtain ⟨path, readsPath⟩ := readsPath
  have entered : members.foldlM recordType.enterEntry recordType.blank =
      (Document.decode document).map fun dmmf => ⟨block, dmmf, path⟩ := by
    rw [RecordType.foldlM_enterEntry sorted increasing (by decide), List.foldlM_cons,
      readsDocument]
    cases Document.decode document with
    | error fault => rfl
    | ok dmmf =>
        change ["generator", "schemaPath"].foldlM (recordType.enterKey members)
          ⟨.empty, dmmf, none⟩ = _
        rw [List.foldlM_cons, readsBlock]
        change (recordType.enterKey members ⟨block, dmmf, none⟩ "schemaPath" >>= pure) = _
        rw [readsPath]
        rfl
  have nothingMissing : recordType.missing? members = none := by
    simp [RecordType.missing?, recordType, Member.needed, Member.optional, dmmf, isGenerator]
  refine ⟨path, ?_⟩
  change recordType.ofEntries members = _
  rw [RecordType.ofEntries, entered, nothingMissing]
  cases Document.decode document <;> rfl

theorem GeneratorOptions.ofParameters_object (sorted : Table.Sorted members)
    (sortedInner : Table.Sorted inner) {generator : Json}
    (dmmf : members.find? "dmmf" = some (.object inner))
    (datamodel : inner.find? "datamodel" = some (.object entries))
    (isGenerator : members.find? "generator" = some generator)
    (isBlock : GeneratorBlock.decode generator = .ok block)
    (schemaPath : ∀ value, members.find? "schemaPath" = some value →
      value = .null ∨ ∃ path, value = .string path) :
    ∃ path, ofParameters (.object members) =
      (Datamodel.ofDocument (.object members)).map fun datamodel => ⟨block, ⟨datamodel⟩, path⟩ := by
  obtain ⟨path, decoded⟩ := decode_object sorted dmmf isGenerator isBlock schemaPath
  have selected : Datamodel.select (.object members) = .ok (.object entries) := by
    simp only [Datamodel.select, dmmf, datamodel, Option.getD_some]
  refine ⟨path, ?_⟩
  rw [ofParameters, decoded, Document.decode_object sortedInner datamodel, Datamodel.ofDocument,
    selected]
  dsimp only
  cases Datamodel.decode (.object entries) <;> rfl

/-! ## What requests do -/

theorem Disk.result_generateFor (disk : Disk) (parameters : Json) :
    disk.result (generateFor parameters) =
      match GeneratorOptions.ofParameters parameters with
      | .error fault => .error fault.message
      | .ok options =>
          match disk.result options.generate with
          | .error failure => .error failure.message
          | .ok _ => .ok () := by
  rw [Disk.result, run_generateFor]
  cases GeneratorOptions.ofParameters parameters <;> rfl

theorem Disk.left_generateFor (disk : Disk) (parameters : Json) :
    disk.left (generateFor parameters) =
      match GeneratorOptions.ofParameters parameters with
      | .error _ => disk
      | .ok options => disk.left options.generate := by
  rw [Disk.left, run_generateFor]
  cases GeneratorOptions.ofParameters parameters <;> rfl

theorem Request.Handled.generated_eq {parameters id : Json} {before after : Disk}
    {outcome : Outcome}
    (handled : Request.Handled ⟨"generate", parameters, id⟩ before outcome after) :
    outcome = .ofGenerated (before.result (generateFor parameters)) ∧
      after = before.left (generateFor parameters) := by
  rw [Disk.result_generateFor, Disk.left_generateFor]
  cases handled with
  | manifest manifest =>
      have notManifest : "generate" ≠ "getManifest" := by decide
      exact absurd manifest notManifest
  | rejected _ unread =>
      dsimp only at unread
      simp only [unread, Outcome.ofGenerated, and_self]
  | failed _ read failed =>
      dsimp only at read
      simp only [read, failed, Outcome.ofGenerated, and_self]
  | generated _ read succeeded =>
      dsimp only at read
      simp only [read, succeeded, Outcome.ofGenerated, and_self]
  | unknown _ notGenerate => exact absurd rfl notGenerate

/-- Where a generator block and the object of a datamodel are given, parameters
and documents hold the same datamodel or are at the same fault, and at any time
of a service a request does what generating the document does. -/
theorem requests_agree_with_documents {generator : Json} (sorted : Table.Sorted members)
    (sortedInner : Table.Sorted inner) (dmmf : members.find? "dmmf" = some (.object inner))
    (datamodel : inner.find? "datamodel" = some (.object entries))
    (isGenerator : members.find? "generator" = some generator)
    (isBlock : GeneratorBlock.decode generator = .ok block)
    (schemaPath : ∀ value, members.find? "schemaPath" = some value →
      value = .null ∨ ∃ path, value = .string path) :
    (GeneratorOptions.ofParameters (.object members)).map (·.dmmf.datamodel) =
        Datamodel.ofDocument (.object members) ∧
      ∀ (input : List UInt8) (start : World),
        let service := (serve input : StateM World _).run start
        Exchange
          (AnsweredAsDocument (.object members)
            (.ofRaw block.config (block.output.bind (·.value))))
          start.disk (Framing.requests input) service.1.responses service.2.disk := by
  obtain ⟨path, sameRead⟩ := GeneratorOptions.ofParameters_object sorted sortedInner dmmf datamodel
    isGenerator isBlock schemaPath
  have sameAction : (generateFor (.object members) : StateM World _) =
      generateDocument (.object members) (.ofRaw block.config (block.output.bind (·.value))) := by
    rw [generateFor, generateDocument, sameRead]
    cases Datamodel.ofDocument (.object members) <;> rfl
  constructor
  · rw [sameRead]
    cases Datamodel.ofDocument (.object members) <;> rfl
  · intro input start service
    obtain ⟨exchange, -⟩ := exchange_serveLines (Framing.lines input) start
    refine exchange.mono fun answered id read => ?_
    cases answered with
    | unread invalid =>
        rw [read] at invalid
        cases invalid
    | handled decoded handled =>
        rw [read] at decoded
        cases decoded
        obtain ⟨isOutcome, isLeft⟩ := handled.generated_eq
        rw [← sameAction, isOutcome]
        exact ⟨rfl, isLeft⟩

/-- An enumeration without a name is the same fault to both, and a datamodel
beside the document counts for neither. -/
theorem requests_agree_with_documents_nameless :
    let datamodel : Table Json := [("enums", .array [.object []])]
    let inner : Table Json := [("datamodel", .object datamodel), ("schema", .null)]
    let generator : Table Json := [("config", .object [("multipleFiles", .string "true")]),
      ("output", .object [("value", .string "out")])]
    let members : Table Json := [("datamodel", .object []), ("dmmf", .object inner),
      ("generator", .object generator), ("schemaPath", .null)]
    let block : GeneratorBlock :=
      ⟨"", some ⟨some "out", none⟩, [("multipleFiles", .single "true")]⟩
    Table.Sorted members ∧ Table.Sorted inner ∧
      GeneratorBlock.decode (.object generator) = .ok block ∧
      Datamodel.ofDocument (.object members) = .error (.invalid (.missingField "name")) ∧
      (GeneratorOptions.ofParameters (.object members)).map (·.dmmf.datamodel) =
        Datamodel.ofDocument (.object members) ∧
      ∀ (input : List UInt8) (start : World),
        let service := (serve input : StateM World _).run start
        Exchange (AnsweredAsDocument (.object members) (.ofRaw block.config (some "out")))
          start.disk (Framing.requests input) service.1.responses service.2.disk := by
  intro datamodel inner generator members block
  have sorted : Table.Sorted members := by
    show List.Pairwise _ _
    decide
  have sortedInner : Table.Sorted inner := by
    show List.Pairwise _ _
    decide
  have isBlock : GeneratorBlock.decode (.object generator) = .ok block := rfl
  have isPath : ∀ value, members.find? "schemaPath" = some value →
      value = .null ∨ ∃ path, value = .string path := by
    have isNull : members.find? "schemaPath" = some .null := rfl
    intro value isValue
    rw [isNull] at isValue
    exact .inl (Option.some.inj isValue).symm
  exact ⟨sorted, sortedInner, isBlock, rfl,
    requests_agree_with_documents sorted sortedInner rfl rfl rfl isBlock isPath⟩

end PrismaZod
