import PrismaZod.Proofs.Json.ReadBack
import PrismaZod.Proofs.Protocol.Exchange

/-!
# Reading responses back

Whoever reads a response with the reader that requests are read with gets its
members, whatever its id and its message hold.  An id fits the response, because
the request has it one level deep as well.
-/

namespace PrismaZod

open Json

def Outcome.member : Outcome → String × Json
  | result value => ("result", value)
  | error code message =>
      ("error", .object [("code", .number (.integer code.number)), ("message", .string message)])

/-- A result that can be read back inside a response. -/
def Outcome.Fits (outcome : Outcome) (limit : Nat) : Prop :=
  ∀ value, outcome = result value → value.Within limit ∧ value.Whole

/-- The response is one line, and reading it gives its members. -/
def Response.ReadsBack (response : Response) : Prop :=
  OneLine response.text ∧ read? response.text = some (.object response.members)

theorem Manifest.within_json (manifest : Manifest) (limit : Nat) :
    manifest.json.Within (limit + 1) ∧ manifest.json.Whole := by
  have texts : ∀ entry ∈ [("prettyName", Json.string manifest.prettyName),
      ("defaultOutput", Json.string manifest.defaultOutput)], ∃ text, entry.2 = .string text := by
    simp
  constructor
  · refine within_ofList fun entry member => ?_
    obtain ⟨text, isText⟩ := texts entry member
    exact isText ▸ within_string limit text
  · refine .object fun entry member => ?_
    obtain ⟨text, isText⟩ := texts entry ((Table.sorted_ofList _).2 entry member)
    exact isText ▸ .string text

theorem Request.Handled.fits {request : Request} {before after : Disk} {outcome : Outcome}
    (handled : request.Handled before outcome after) (limit : Nat) : outcome.Fits (limit + 2) := by
  intro value isResult
  cases handled with
  | manifest _ =>
      cases isResult
      obtain ⟨within, whole⟩ := Manifest.standard.within_json limit
      refine ⟨⟨List.pairwise_singleton _ _, ?_⟩, .object ?_⟩
      · simpa only [List.forall_mem_singleton] using within
      · simpa only [List.forall_mem_singleton] using whole
  | generated _ _ _ =>
      cases isResult
      exact ⟨trivial, .null⟩
  | rejected _ _ => cases isResult
  | failed _ _ _ => cases isResult
  | unknown _ _ => cases isResult

theorem ErrorCode.fits (code : ErrorCode) : (Number.integer code.number).Fits := by
  cases code <;> simp [Number.Fits, ErrorCode.number]

theorem Response.ofList_members (response : Response) :
    Table.ofList [("jsonrpc", .string "2.0"), ("id", response.id), response.outcome.member] =
      response.members := by
  obtain ⟨id, outcome⟩ := response
  have version : Table.insert "jsonrpc" (.string "2.0") [] = [("jsonrpc", Json.string "2.0")] :=
    rfl
  have first : Table.insert "id" id [("jsonrpc", .string "2.0")] =
      [("id", id), ("jsonrpc", .string "2.0")] :=
    Table.insert_of_below (by decide)
  simp only [Table.ofList, List.foldl_cons, List.foldl_nil]
  rw [version, first]
  cases outcome with
  | result value =>
      have above : ∀ entry ∈ [("id", id), ("jsonrpc", .string "2.0")], entry.1 < "result" := by
        intro entry member
        rcases List.mem_pair.mp member with rfl | rfl
        · show "id" < "result"
          decide
        · show "jsonrpc" < "result"
          decide
      exact Table.insert_of_above above
  | error code message =>
      have errorFirst : "error" < "id" := by decide
      exact Table.insert_of_below errorFirst

theorem Outcome.writes_member {outcome : Outcome} {limit : Nat}
    (fits : outcome.Fits (limit + 1)) :
    WritesMember (limit + 1) outcome.memberText outcome.member := by
  cases outcome with
  | result value =>
      obtain ⟨within, whole⟩ := fits value rfl
      exact ⟨_, rfl, Json.writes_text within whole⟩
  | error code message =>
      have sorted : Table.Sorted
          [("code", number (.integer code.number)), ("message", string message)] := by
        refine List.pairwise_pair.mpr ?_
        show "code" < "message"
        decide
      have number : WritesMember limit (Json.memberText "code" code.number.repr)
          ("code", .number (.integer code.number)) :=
        ⟨_, rfl, writes_repr limit code.fits⟩
      have text : WritesMember limit (Json.memberText "message" (stringText message))
          ("message", .string message) :=
        ⟨_, rfl, writes_stringText limit message⟩
      have written := writes_object (.cons number (.cons text .nil))
      rw [Table.ofList_of_sorted sorted] at written
      exact ⟨_, rfl, written⟩

theorem Response.writes_text {response : Response} {limit : Nat}
    (within : response.id.Within (limit + 1)) (whole : response.id.Whole)
    (fits : response.outcome.Fits (limit + 1)) :
    Writes (limit + 2) response.text (.object response.members) := by
  have version : WritesMember (limit + 1) (memberText "jsonrpc" (stringText "2.0"))
      ("jsonrpc", .string "2.0") :=
    ⟨_, rfl, writes_stringText (limit + 1) "2.0"⟩
  have id : WritesMember (limit + 1) (memberText "id" response.id.text) ("id", response.id) :=
    ⟨_, rfl, Json.writes_text within whole⟩
  rw [← response.ofList_members]
  exact writes_object (.cons version (.cons id (.cons (Outcome.writes_member fits) .nil)))

theorem Answered.readsBack {before after : Disk} {text : String} {response : Response}
    (answered : Answered before text response after) (whole : response.id.Whole) :
    response.ReadsBack := by
  have fits : response.id.Within (nestingLimit - 1) ∧
      response.outcome.Fits (nestingLimit - 1) := by
    cases answered with
    | unread _ => exact ⟨trivial, fun value isResult => by cases isResult⟩
    | handled read handled =>
        exact ⟨(Request.within_of_ofLine read).2, handled.fits (nestingLimit - 3)⟩
  have written : Writes nestingLimit response.text (.object response.members) :=
    Response.writes_text fits.1 whole fits.2
  exact ⟨written.line, read?_of_writes written⟩

/-- Responses carry the ids of their requests, and what carries no double is read
back from its line. -/
theorem serve_readsBack (input : List UInt8) (start : World) :
    List.Forall₂ (fun text response =>
        response.id = (match Request.ofLine text with
          | .ok request => request.id
          | .error _ => .null) ∧
        (response.id.Whole → response.ReadsBack))
      (Framing.requests input) ((serve input : StateM World _).run start).1.responses := by
  obtain ⟨exchange, -⟩ := exchange_serveLines (Framing.lines input) start
  exact exchange.forall₂ fun answered => ⟨answered.owed.id, answered.readsBack⟩

end PrismaZod
