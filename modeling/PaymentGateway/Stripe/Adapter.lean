/-
# Stripe as a provider

An operation sends exactly one request and never repeats it. What goes wrong
before the service answers, or makes its answer unreadable, is a fault without
code or status; what the service reports keeps its code, message and status. A
payment method that is bound already is told apart by its code or by the words
of the message.

Key definitions: `Stripe.Wire`, `Stripe.call`, `Stripe.provider`,
`Stripe.Tape.wire`.
-/
import PaymentGateway.Stripe.Reply
import PaymentGateway.Stripe.Request
import PaymentGateway.Url.Address

namespace PaymentGateway
namespace Stripe

variable [Unicode]

/-- A connection with state `σ`: what comes back for a request. -/
abbrev Wire (σ : Type) := Request → σ → Reply × σ

/-- The dialect in which the service is spoken to at a path, if it is there. -/
def dialect? (path : String) : Option Dialect :=
  let starts := fun (root : String) => root.toList.isPrefixOf path.toList
  if starts "/v1" || starts "/oauth" then some .first
  else if starts "/v2" then some .second
  else none

/-- Sends the request of an operation and reads the reply. Nothing is sent when
the address cannot be read. That the service is not at the address shows only
when the request has been sent, and counts more than that it cannot be reached. -/
def call {σ α : Type} (account : Account) (wire : Wire σ) (op : Operation)
    (read : Dialect → Int → String → Except Trouble α) (s : σ) : Except Trouble α × σ :=
  let request := Request.of account op
  match Address.parse request.url with
  | .error f => (.error (.other (Address.complaint request.url f)), s)
  | .ok address =>
    let address := address.withoutEmptyPort
    let (reply, s) := wire { request with url := address.render } s
    match dialect? address.path, reply with
    | none, _ => (.error (.other ("unknown path prefix " ++ address.path)), s)
    | some _, .unreachable reason =>
      (.error (.other ("Post " ++ Text.quote address.renderSafely ++ ": " ++ reason)), s)
    | some d, .answer status body => (read d status body, s)

/-- The fault of an operation. -/
def fault (op : Operation) (t : Trouble) : Fault :=
  match t with
  | .reported f => .remote op.name f.code f.message f.status (some (.plain t.text))
  | .other text => .remote op.name "" (op.name ++ ": " ++ text) 0 (some (.plain text))

/-- The code of a thing that exists already. -/
def existsCode : String := "resource_already_exists"

/-- The words in which a bound payment method is reported. -/
def boundWords : String := "already been attached"

/-- Whether `word` occurs in a text. -/
def occurs (word : List Char) : List Char → Bool
  | [] => word.isEmpty
  | c :: cs => word.isPrefixOf (c :: cs) || occurs word cs

/-- Whether a failure says that the payment method is bound already. -/
def isBound (f : Failure) : Bool :=
  f.code = existsCode || occurs boundWords.toList f.message.toList

/-- The fault of an attach. -/
def attachFault (op : Operation) : Trouble → Fault
  | .reported f =>
    if isBound f then .wrapped "" .alreadyAttached (": " ++ f.message) else fault op (.reported f)
  | t => fault op t

/-- An operation that gives an intent. -/
def intentCall {σ : Type} (account : Account) (wire : Wire σ) (op : Operation) (s : σ) :
    Except Fault Intent × σ :=
  match call account wire op Reply.intent s with
  | (.ok i, s) => (.ok i, s)
  | (.error t, s) => (.error (fault op t), s)

/-- The service behind a connection, as a provider. -/
def provider {σ : Type} (account : Account) (wire : Wire σ) : Provider σ where
  create params s := intentCall account wire (.create params) s
  confirm id method s := intentCall account wire (.confirm id method) s
  attach method id s :=
    let op := Operation.attach method id
    match call account wire op Reply.acknowledge s with
    | (.ok (), s) => (none, s)
    | (.error t, s) => (some (attachFault op t), s)

/-- A recorded connection: the replies still to be given, and the requests
sent, in order. -/
structure Tape where
  replies : List Reply
  sent : List Request
  deriving Repr, DecidableEq

/-- The connection that gives the replies of a tape in turn. -/
def Tape.wire : Wire Tape := fun request t =>
  match t.replies with
  | [] => (.unreachable "no reply scripted", { t with sent := t.sent ++ [request] })
  | reply :: rest => (reply, ⟨rest, t.sent ++ [request]⟩)

end Stripe
end PaymentGateway
