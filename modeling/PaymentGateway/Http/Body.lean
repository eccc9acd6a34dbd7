/-
# Request bodies

A body is a JSON value, and what follows the first value is ignored. At most
`Body.limit` bytes of it are read: a longer body is too large unless its first
value, or a mistake, is found within the limit. Whether the value fits the
request is looked at when it is complete.

Key definitions: `Http.Body.first`, `Http.Body.process`, `Http.Body.confirm`.
-/
import PaymentGateway.Handshake
import PaymentGateway.Json.Field
import PaymentGateway.Json.Reader

namespace PaymentGateway
namespace Http
namespace Body

/-- The most bytes of a body that are read. -/
def limit : Nat := 1048576

/-- Why a body is refused. -/
inductive Refusal where
  | malformed
  | tooLarge
  deriving Repr, DecidableEq

/-- The first value of a body. -/
def first (body : List UInt8) : Except Refusal Json :=
  if body.length ≤ limit then
    match (Json.Reader.run (Text.Utf8.decode body)).finish? with
    | some (v, _) => .ok v
    | none => .error .malformed
  else
    match Json.Reader.run (Text.Utf8.decode (body.take limit)) with
    | .closed v _ => .ok v
    | .failed => .error .malformed
    | _ => .error .tooLarge

/-- The first value of a body, read as a request. -/
def read {α : Type} (ofJson? : Json → Option α) (body : List UInt8) : Except Refusal α := do
  match ofJson? (← first body) with
  | some a => .ok a
  | none => .error .malformed

/-- The fields of a request for a new intent; the amount may be missing. -/
structure Process where
  amount : Option Binary64
  currency : String
  paymentMethod : String
  deriving Repr, DecidableEq

/-- Takes one member of a document. -/
def Process.take (p : Process) (key : List Char) (v : Json) : Option Process :=
  if Json.Field.named "amount" key then
    (Json.Field.amount v).map fun x => { p with amount := x }
  else if Json.Field.named "currency" key then
    (Json.Field.text p.currency v).map fun x => { p with currency := x }
  else if Json.Field.named "payment_method_id" key then
    (Json.Field.text p.paymentMethod v).map fun x => { p with paymentMethod := x }
  else some p

/-- The request these fields make; a missing amount counts as zero. -/
def Process.request (p : Process) : Handshake.CreateRequest :=
  ⟨p.amount.getD (.finite false 0 0), p.currency, p.paymentMethod⟩

/-- The request for a new intent that a document makes. -/
def processOfJson? (v : Json) : Option Handshake.CreateRequest :=
  (Json.Field.read Process.take ⟨none, "", ""⟩ v).map Process.request

/-- Takes one member of a document. -/
def takeConfirm (r : Handshake.ConfirmRequest) (key : List Char) (v : Json) :
    Option Handshake.ConfirmRequest :=
  if Json.Field.named "payment_intent_client_secret" key then
    (Json.Field.text r.clientSecret v).map fun x => { r with clientSecret := x }
  else if Json.Field.named "payment_method_id" key then
    (Json.Field.text r.paymentMethod v).map fun x => { r with paymentMethod := x }
  else some r

/-- The confirmation that a document asks for. -/
def confirmOfJson? (v : Json) : Option Handshake.ConfirmRequest :=
  Json.Field.read takeConfirm ⟨"", ""⟩ v

/-- Reads a request for a new intent. -/
def process (body : List UInt8) : Except Refusal Handshake.CreateRequest :=
  read processOfJson? body

/-- Reads a confirmation. -/
def confirm (body : List UInt8) : Except Refusal Handshake.ConfirmRequest :=
  read confirmOfJson? body

end Body
end Http
end PaymentGateway
