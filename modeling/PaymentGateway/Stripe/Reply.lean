/-
# Replies from Stripe

A reply below status 400 is an object; from 400 on it is a failure, wrapped in
an object under `error`. An object may also be given by its id alone. A body
that cannot be read is quoted in the fault, at most 500 bytes of it and on one
line; a failure without a body of its own is quoted whole.

The service speaks two dialects. They differ in what a failure is: the second
one has no failures that keep code and status, only texts.

Key definitions: `Stripe.Dialect`, `Stripe.Failure`, `Stripe.Trouble`,
`Stripe.Reply.intent`, `Stripe.Reply.acknowledge`.
-/
import PaymentGateway.Intent
import PaymentGateway.Json.Reader
import PaymentGateway.Json.Writer
import PaymentGateway.Stripe.Document

namespace PaymentGateway
namespace Stripe

/-- What comes back for a request: nothing, for a reason, or a status and a
body. -/
inductive Reply where
  | unreachable (reason : String)
  | answer (status : Int) (body : String)
  deriving Repr, DecidableEq

/-- The dialects of the service. -/
inductive Dialect where
  | first | second
  deriving Repr, DecidableEq

/-- A failure that the service reports, with the failure as one line. -/
structure Failure where
  code : String
  message : String
  status : Int
  line : String
  deriving Repr, DecidableEq

/-- Why an operation gives no object: a reported failure, or anything else. -/
inductive Trouble where
  | reported (f : Failure)
  | other (text : String)
  deriving Repr, DecidableEq

/-- The text of a trouble. -/
def Trouble.text : Trouble → String
  | reported f => f.line
  | other s => s

/-- How much of an unreadable body is quoted, in bytes. -/
def sampleLimit : Nat := 500

/-- A newline as an escape. -/
def onOneLine (c : Char) : List Char := if c = '\n' then ['\\', 'n'] else [c]

/-- The start of a body on one line. -/
def sample (body : String) : String :=
  let bytes := Text.Utf8.bytes body
  let shown :=
    if sampleLimit < bytes.length then Text.Utf8.text (bytes.take sampleLimit) ++ " ..." else body
  String.ofList (shown.toList.flatMap onOneLine)

/-- The trouble of a body that cannot be read. -/
def unreadable (status : Int) (body : String) : Trouble :=
  .other ("Couldn't deserialize JSON (response status: " ++ Digits.text status ++
    ", body sample: '" ++ sample body ++ "')")

/-- The failure that was read, in a reply with this status. What the body says
of status and request does not count. -/
def Failure.ofDocument (status : Int) (v : Json) : Failure :=
  let members := Document.set "status".toList (Json.ofInt status)
    (Document.set "request_id".toList .null (Document.membersOf v))
  { code := Document.textOf (Document.get "code" v)
    message := Document.textOf (Document.get "message" v)
    status
    line := (Document.write .failure (.object members)).render }

/-- The object around a failure. -/
def failureEnvelope : Kind := .object [(.failure, ["error"])]

/-- A failure in the second dialect. -/
def plainFailure : Members := [(.text, ["code", "message", "type", "user_message"])]

/-- The object around a failure in the second dialect. -/
def plainEnvelope : Kind := .object [(.object plainFailure, ["error"])]

/-- A failure of the second dialect as one line: code and message, then type and
a message for users if there are such. -/
def plainLine (v : Json) : String :=
  let text := fun name => Document.textOf (Document.get name v)
  let optional := fun name => if text name = "" then [] else [(name, Json.ofText (text name))]
  (Json.ofMembers
    ([("code", Json.ofText (text "code")), ("message", Json.ofText (text "message"))] ++
      optional "type" ++ optional "user_message")).render

/-- The trouble of a reply with status 400 or more. -/
def failureReply (d : Dialect) (status : Int) (body : String) : Trouble :=
  let kind := match d with
    | .first => failureEnvelope
    | .second => plainEnvelope
  match (Json.parseText? body).bind (Document.read .null kind) with
  | none => unreadable status body
  | some v =>
    match d, Document.get "error" v with
    | _, .null => .other body
    | .first, v => .reported (.ofDocument status v)
    | .second, v => .other (plainLine v)

/-- The intent that was read. -/
def intentOf (v : Json) : Intent where
  id := Document.textOf (Document.get "id" v)
  clientSecret := Document.textOf (Document.get "client_secret" v)
  status := Document.textOf (Document.get "status" v)
  nextAction :=
    match Document.get "next_action" v with
    | .null => none
    | action => some (Document.textOf (Document.get "type" action))

namespace Reply

/-- What the reply with this status and body says, given the resource that is
expected. -/
def object (name : String) (d : Dialect) (status : Int) (body : String) : Except Trouble Json :=
  if 400 ≤ status then .error (failureReply d status body)
  else match (Json.parseText? body).bind (Document.read .null (.resource name)) with
    | some v => .ok v
    | none => .error (unreadable status body)

/-- The intent of a reply. -/
def intent (d : Dialect) (status : Int) (body : String) : Except Trouble Intent :=
  (object "payment_intent" d status body).map intentOf

/-- A reply of which only the outcome matters. -/
def acknowledge (d : Dialect) (status : Int) (body : String) : Except Trouble Unit :=
  (object "payment_method" d status body).map fun _ => ()

end Reply
end Stripe
end PaymentGateway
