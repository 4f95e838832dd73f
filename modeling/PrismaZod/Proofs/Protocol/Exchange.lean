import Mathlib.Data.List.ReduceOption
import PrismaZod.Proofs.Protocol.Framing
import PrismaZod.Proofs.Protocol.Request
import PrismaZod.Proofs.Run.Basic

/-!
# Requests and responses

A service answers each line that is not blank with one response, in order, up to
a line that is no text.  What a response carries follows from its line and from
the disk that the requests before it have left.
-/

namespace PrismaZod

open Json

/-- The texts of lines, up to one that is no text. -/
def Framing.texts (lines : List (List UInt8)) : List String :=
  ((lines.map text?).takeWhile Option.isSome).reduceOption

/-- The texts of an input that ask for an answer. -/
def Framing.requests (input : List UInt8) : List String :=
  (texts (lines input)).filter fun text => !Text.isBlankText text

def GeneratorOptions.generate (options : GeneratorOptions) :
    StateM World (Except Failure Plan) :=
  PrismaZod.generate options.dmmf.datamodel (.ofGenerator options.generator)

/-- What a request comes to on a disk: its outcome and the disk that is left. -/
inductive Request.Handled (request : Request) (before : Disk) : Outcome → Disk → Prop
  | manifest : request.method = "getManifest" →
      Handled request before (.result (.object [("manifest", Manifest.standard.json)])) before
  /-- The parameters are no options of a generator. -/
  | rejected {fault : DocumentFault} : request.method = "generate" →
      GeneratorOptions.ofParameters request.parameters = .error fault →
        Handled request before (.error .generation fault.message) before
  | failed {options : GeneratorOptions} {failure : Failure} : request.method = "generate" →
      GeneratorOptions.ofParameters request.parameters = .ok options →
      before.result options.generate = .error failure →
        Handled request before (.error .generation failure.message) (before.left options.generate)
  | generated {options : GeneratorOptions} {plan : Plan} : request.method = "generate" →
      GeneratorOptions.ofParameters request.parameters = .ok options →
      before.result options.generate = .ok plan →
        Handled request before (.result .null) (before.left options.generate)
  | unknown : request.method ≠ "getManifest" → request.method ≠ "generate" →
      Handled request before
        (.error .methodNotFound ("method not found: " ++ request.method)) before

/-- What a text comes to on a disk: its response and the disk that is left. -/
inductive Answered (before : Disk) (text : String) : Response → Disk → Prop
  | unread {fault : RequestFault} : Request.ofLine text = .error fault →
      Answered before text ⟨.null, .error .parse ("invalid request: " ++ fault.message)⟩ before
  | handled {request : Request} {outcome : Outcome} {after : Disk} :
      Request.ofLine text = .ok request → request.Handled before outcome after →
        Answered before text ⟨request.id, outcome⟩ after

theorem Request.handled_perform (request : Request) (world : World) :
    request.Handled world.disk ((request.perform : StateM World _).run world).1
      ((request.perform : StateM World _).run world).2.disk := by
  obtain ⟨method, parameters, id⟩ := request
  by_cases manifest : method = "getManifest"
  · subst manifest
    exact .manifest rfl
  by_cases generates : method = "generate"
  · subst generates
    obtain ⟨sameOutcome, sameDisk⟩ := run_request id parameters world
    rw [sameOutcome, sameDisk, run_generateFor]
    cases read : GeneratorOptions.ofParameters parameters with
    | error fault => exact .rejected rfl read
    | ok options =>
        obtain ⟨isResult, isLeft⟩ := (ignoresLog_generate options.dmmf.datamodel
          (.ofGenerator options.generator)).result_left world
        dsimp only
        rw [isResult, isLeft]
        cases result : world.disk.result
            (generate options.dmmf.datamodel (.ofGenerator options.generator)) with
        | error failure => exact .failed rfl read result
        | ok plan => exact .generated rfl read result
  · rw [perform, run_bind, if_neg manifest, if_neg generates, run_pure]
    exact .unknown manifest generates

theorem answered_answer? {text : String} (notBlank : Text.isBlankText text = false)
    (world : World) :
    ∃ response, ((answer? text : StateM World _).run world).1 = some response ∧
      Answered world.disk text response ((answer? text : StateM World _).run world).2.disk := by
  rw [answer?, if_neg (by simp [notBlank])]
  cases read : Request.ofLine text with
  | error fault => exact ⟨_, rfl, .unread read⟩
  | ok request => exact ⟨_, rfl, .handled read (request.handled_perform world)⟩

/-- Texts are answered in order, each on the disk that the one before has left. -/
inductive Exchange (answers : Disk → String → Response → Disk → Prop) :
    Disk → List String → List Response → Disk → Prop
  | done (disk : Disk) : Exchange answers disk [] [] disk
  | step {before middle after : Disk} {text : String} {texts : List String} {response : Response}
      {responses : List Response} :
      answers before text response middle → Exchange answers middle texts responses after →
        Exchange answers before (text :: texts) (response :: responses) after

theorem Exchange.mono {first second : Disk → String → Response → Disk → Prop}
    (implies : ∀ {before text response after},
      first before text response after → second before text response after)
    {before after : Disk} {texts : List String} {responses : List Response}
    (exchange : Exchange first before texts responses after) :
    Exchange second before texts responses after := by
  induction exchange with
  | done disk => exact .done disk
  | step answers _ ih => exact .step (implies answers) ih

theorem Exchange.forall₂ {answers : Disk → String → Response → Disk → Prop}
    {relation : String → Response → Prop}
    (each : ∀ {before text response after},
      answers before text response after → relation text response)
    {before after : Disk} {texts : List String} {responses : List Response}
    (exchange : Exchange answers before texts responses after) :
    List.Forall₂ relation texts responses := by
  induction exchange with
  | done disk => exact .nil
  | step answers _ ih => exact .cons (each answers) ih

theorem Framing.texts_cons (line : List UInt8) (lines : List (List UInt8)) :
    texts (line :: lines) =
      match text? line with
      | none => []
      | some text => text :: texts lines := by
  cases decoded : text? line <;> simp [texts, decoded]

/-- Lines are answered in order, the blank ones apart, up to one that is no text. -/
theorem exchange_serveLines (lines : List (List UInt8)) (start : World) :
    Exchange Answered start.disk
        ((Framing.texts lines).filter fun text => !Text.isBlankText text)
        ((serveLines lines : StateM World _).run start).1.responses
        ((serveLines lines : StateM World _).run start).2.disk ∧
      (((serveLines lines : StateM World _).run start).1.complete = true ↔
        ∀ line ∈ lines, (Framing.text? line).isSome) := by
  -- Each line finds the disk that the lines before it have left, so the start is general.
  induction lines generalizing start with
  | nil =>
      have all : ∀ line ∈ ([] : List (List UInt8)), (Framing.text? line).isSome :=
        fun line member => (List.not_mem_nil member).elim
      exact ⟨.done start.disk, fun _ => all, fun _ => rfl⟩
  | cons line lines ih =>
      rw [serveLines, Framing.texts_cons, List.forall_mem_cons]
      cases decoded : Framing.text? line with
      | none => exact ⟨.done start.disk, by simp⟩
      | some text =>
          dsimp only
          rw [run_bind, run_bind, run_pure]
          obtain ⟨rest, complete⟩ := ih ((answer? text : StateM World _).run start).2
          refine ⟨?_, by simpa using complete⟩
          cases blank : Text.isBlankText text with
          | true =>
              have unanswered : (answer? text : StateM World _).run start = (none, start) := by
                rw [answer?, if_pos blank, run_pure]
              rw [unanswered] at rest ⊢
              rw [List.filter_cons_of_neg (by simp [blank])]
              exact rest
          | false =>
              obtain ⟨response, answers, answered⟩ := answered_answer? blank start
              rw [answers, List.filter_cons_of_pos (by simp [blank])]
              exact .step answered rest

/-! ## What responses carry -/

/-- What a response says, as the members of an object. -/
def Response.members (response : Response) : Table Json :=
  match response.outcome with
  | .result value => [("id", response.id), ("jsonrpc", .string "2.0"), ("result", value)]
  | .error code message =>
      [("error", .object [("code", .number (.integer code.number)), ("message", .string message)]),
        ("id", response.id), ("jsonrpc", .string "2.0")]

def Outcome.errorNumber? : Outcome → Option Int
  | result _ => none
  | error code _ => some code.number

/-- Parameters cannot be read, or what they ask for cannot be generated. -/
def Disk.Refuses (disk : Disk) (parameters : Json) : Prop :=
  (∃ fault, GeneratorOptions.ofParameters parameters = .error fault) ∨
    ∃ options failure, GeneratorOptions.ofParameters parameters = .ok options ∧
      disk.result options.generate = .error failure

/-- A response to a text on a disk, and the disk that is left, are as the
protocol has them. -/
structure Owed (before : Disk) (text : String) (response : Response) (after : Disk) : Prop where
  id : response.id =
    match Request.ofLine text with
    | .ok request => request.id
    | .error _ => .null
  /-- An id that is absent counts as null. -/
  idRead : ∀ request, Request.ofLine text = .ok request → ∃ tree, Tree.ofText? text = some tree ∧
    (Request.part? "id" 2 tree).elim (some .null) (Tree.value? (nestingLimit - 1)) =
      some response.id
  either : (response.members.find? "result").isSome ≠ (response.members.find? "error").isSome
  parse : response.outcome.errorNumber? = some (-32700) ↔
    ∃ fault, Request.ofLine text = .error fault
  methodNotFound : response.outcome.errorNumber? = some (-32601) ↔
    ∃ request, Request.ofLine text = .ok request ∧
      request.method ≠ "getManifest" ∧ request.method ≠ "generate"
  generation : response.outcome.errorNumber? = some (-32000) ↔
    ∃ request, Request.ofLine text = .ok request ∧
      request.method = "generate" ∧ before.Refuses request.parameters
  noOther : response.outcome.errorNumber? ∈ [none, some (-32700), some (-32601), some (-32000)]
  generates : ∀ request, Request.ofLine text = .ok request → request.method = "generate" →
    ∀ options, GeneratorOptions.ofParameters request.parameters = .ok options →
      after = before.left options.generate
  unchanged : (¬∃ request options, Request.ofLine text = .ok request ∧
    request.method = "generate" ∧ GeneratorOptions.ofParameters request.parameters = .ok options) →
      after = before

theorem Response.result_or_error (response : Response) :
    (response.members.find? "result").isSome ≠ (response.members.find? "error").isSome := by
  obtain ⟨id, outcome⟩ := response
  cases outcome <;> simp [members, Table.find?_cons]

namespace Request.Handled

variable {request : Request} {before after : Disk} {outcome : Outcome}

theorem errorNumber (handled : request.Handled before outcome after) :
    (outcome.errorNumber? = some (-32601) ↔
        request.method ≠ "getManifest" ∧ request.method ≠ "generate") ∧
      (outcome.errorNumber? = some (-32000) ↔
        request.method = "generate" ∧ before.Refuses request.parameters) ∧
      outcome.errorNumber? ∈ [none, some (-32601), some (-32000)] := by
  cases handled with
  | manifest manifest => simp [Outcome.errorNumber?, manifest]
  | rejected generates unread =>
      have refuses : before.Refuses request.parameters := .inl ⟨_, unread⟩
      simp [Outcome.errorNumber?, ErrorCode.number, generates, refuses]
  | failed generates read failed =>
      have refuses : before.Refuses request.parameters := .inr ⟨_, _, read, failed⟩
      simp [Outcome.errorNumber?, ErrorCode.number, generates, refuses]
  | generated generates read succeeded =>
      have accepts : ¬before.Refuses request.parameters := by
        rintro (⟨fault, unread⟩ | ⟨options, failure, same, failed⟩)
        · rw [read] at unread
          cases unread
        · rw [read] at same
          cases same
          rw [succeeded] at failed
          cases failed
      simp [Outcome.errorNumber?, generates, accepts]
  | unknown notManifest notGenerate =>
      simp [Outcome.errorNumber?, ErrorCode.number, notManifest, notGenerate]

theorem leaves (handled : request.Handled before outcome after) :
    (request.method = "generate" →
        ∀ options, GeneratorOptions.ofParameters request.parameters = .ok options →
          after = before.left options.generate) ∧
      ((¬∃ options, request.method = "generate" ∧
        GeneratorOptions.ofParameters request.parameters = .ok options) → after = before) := by
  cases handled with
  | manifest manifest => simp [manifest]
  | rejected generates unread => simp [unread]
  | failed generates read failed => simp [generates, read]
  | generated generates read succeeded => simp [generates, read]
  | unknown notManifest notGenerate => simp [notGenerate]

end Request.Handled

theorem Answered.owed {before after : Disk} {text : String} {response : Response}
    (answered : Answered before text response after) : Owed before text response after := by
  cases answered with
  | unread invalid => exact {
      id := by rw [invalid]
      idRead := by simp [invalid]
      either := Response.result_or_error _
      parse := by simp [Outcome.errorNumber?, ErrorCode.number, invalid]
      methodNotFound := by simp [Outcome.errorNumber?, ErrorCode.number, invalid]
      generation := by simp [Outcome.errorNumber?, ErrorCode.number, invalid]
      noOther := by simp [Outcome.errorNumber?, ErrorCode.number]
      generates := by simp [invalid]
      unchanged := fun _ => rfl }
  | @handled request outcome after read handled =>
      obtain ⟨methodNotFound, generation, among⟩ := handled.errorNumber
      obtain ⟨generates, unchanged⟩ := handled.leaves
      obtain ⟨tree, isTree, isRequest⟩ := Request.exists_tree_of_ofLine read
      have noParseError : outcome.errorNumber? ≠ some (-32700) := by
        intro isParse
        simp [isParse] at among
      have further : [none, some (-32601), some (-32000)] ⊆
          [none, some (-32700), some (-32601), some (-32000)] := by
        simp
      exact {
        id := by rw [read]
        idRead := fun _ _ => ⟨tree, isTree, (Request.parts_of_ofTree isRequest).2⟩
        either := Response.result_or_error _
        parse := by simp [noParseError, read]
        methodNotFound := by simpa [read] using methodNotFound
        generation := by simpa [read] using generation
        noOther := further among
        generates := by simpa [read] using generates
        unchanged := by simpa [read] using unchanged }

/-- Every text that asks for an answer gets one response, in the order of the
input; only a line that is no text ends the service early. The lines are those that
the input divides into. -/
theorem serve_exchange (input : List UInt8) (start : World) :
    let service := (serve input : StateM World _).run start
    Exchange Owed start.disk (Framing.requests input) service.1.responses service.2.disk ∧
      (service.1.complete = true ↔
        ∀ line ∈ Framing.lines input, (Framing.text? line).isSome) ∧
      ∀ lines, Framing.Divides input lines ↔ lines = Framing.lines input := by
  intro service
  obtain ⟨exchange, complete⟩ := exchange_serveLines (Framing.lines input) start
  exact ⟨exchange.mono Answered.owed, complete, fun _ => Framing.divides_iff⟩

end PrismaZod
