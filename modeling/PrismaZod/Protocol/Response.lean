import PrismaZod.Json.Printer

/-!
# Responses

A response carries the id of its request and either a result or an error.  It
is written on one line.
-/

namespace PrismaZod

/-- The kinds of errors that a response can carry. -/
inductive ErrorCode
  | parse
  | methodNotFound
  | generation
deriving DecidableEq, Repr, Inhabited

def ErrorCode.number : ErrorCode → Int
  | parse => -32700
  | methodNotFound => -32601
  | generation => -32000

inductive Outcome
  | result (value : Json)
  | error (code : ErrorCode) (message : String)
deriving Repr, Inhabited

structure Response where
  id : Json
  outcome : Outcome
deriving Repr, Inhabited

def Outcome.memberText : Outcome → String
  | result value => Json.memberText "result" value.text
  | error code message =>
      Json.memberText "error" <| Json.objectText [
        Json.memberText "code" code.number.repr,
        Json.memberText "message" (Json.stringText message)]

def Response.text (response : Response) : String :=
  Json.objectText [
    Json.memberText "jsonrpc" (Json.stringText "2.0"),
    Json.memberText "id" response.id.text,
    response.outcome.memberText]

end PrismaZod
