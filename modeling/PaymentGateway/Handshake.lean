/-
# The payment handshake

Two operations against a provider, with the registry kept in step: `create`
opens an intent and records it; `confirm` finds the intent of a client secret,
attaches the payment method as far as that works, and confirms it. A failed
operation records nothing and publishes nothing. A confirmation always asks
the provider, whatever status is on record, and keeps the secret the caller
holds.

The amount is a double in minor units and is rounded to the nearest whole
number, halves up; what rounds to nothing or does not fit in 64 bits is
refused before the provider is called.

Key definitions: `Handshake.accept`, `Handshake.resolve`, `Handshake.create`,
`Handshake.confirm`, `Handshake.Outcome`.
-/
import PaymentGateway.Log
import PaymentGateway.Number.Binary64
import PaymentGateway.Registry
import PaymentGateway.Text.Blank
import PaymentGateway.Trace

namespace PaymentGateway
namespace Handshake

/-- A request for a new intent. -/
structure CreateRequest where
  amount : Binary64
  currency : String
  paymentMethod : String
  deriving Repr, DecidableEq

/-- What the caller gets of a new intent. -/
structure Created where
  clientSecret : String
  status : String
  deriving Repr, DecidableEq

/-- A request to confirm the intent behind a client secret. -/
structure ConfirmRequest where
  clientSecret : String
  paymentMethod : String
  deriving Repr, DecidableEq

/-- How the best-effort attach went. -/
inductive AttachOutcome where
  | skipped | attached | alreadyAttached | failed
  deriving Repr, DecidableEq

/-- The name of an attach outcome. -/
def AttachOutcome.text : AttachOutcome → String
  | skipped => "skipped"
  | attached => "attached"
  | alreadyAttached => "already_attached"
  | failed => "failed"

/-- What the caller gets of a confirmation; the secret only when the customer
has to act. -/
structure Confirmed where
  status : String
  requiresAction : Bool
  clientSecret : String
  attach : AttachOutcome
  deriving Repr, DecidableEq

/-- The result of an operation, the registry and the provider's state after
it, and what it left behind. -/
structure Outcome (σ α : Type) where
  result : Except Fault α
  registry : Registry
  remote : σ
  trace : Trace

/-- What a publisher answers to an event: the fault, if any. -/
abbrev Publish := Envelope → Option Fault

def requiredMessage : String := "amount and currency are required"
def positiveMessage : String := "amount must be greater than zero"
def tooLargeMessage : String := "amount is too large"
def secretMessage : String := "payment_intent_client_secret required"

def createOp : String := "create payment intent"
def confirmOp : String := "confirm payment intent"

/-- The amount in whole minor units. -/
def minorUnits : Binary64 → Except Fault Int
  | .nan => .error (.invalid positiveMessage)
  | .infinite true => .error (.invalid positiveMessage)
  | .infinite false => .error (.invalid tooLargeMessage)
  | .finite true _ _ => .error (.invalid positiveMessage)
  | .finite false m e =>
    let n := Binary64.roundHalfUp m e
    if n < 1 then .error (.invalid positiveMessage)
    else if Nat.pow 2 63 ≤ n then .error (.invalid tooLargeMessage)
    else .ok n

/-- The parameters a request amounts to, if it may go to the provider. -/
def accept (req : CreateRequest) : Except Fault CreateParams :=
  let currency := Text.trim req.currency
  if req.amount.isZero || currency = "" then .error (.invalid requiredMessage)
  else if req.amount.isPositive then
    (minorUnits req.amount).map fun amount => ⟨amount, currency, Text.trim req.paymentMethod⟩
  else .error (.invalid positiveMessage)

/-- The record behind a client secret; finding it counts as use. -/
def resolve (r : Registry) (req : ConfirmRequest) : Except Fault Record × Registry :=
  if req.clientSecret = "" then (.error (.invalid secretMessage), r)
  else match r.find req.clientSecret with
    | (some rec, r) => (.ok rec, r)
    | (none, r) => (.error .notFound, r)

/-- What a failed provider call leaves behind: the fault in the span and in the
log. -/
def failure (op : String) (span : Span) (f : Fault) : Trace :=
  .ofSpan { span with failure := some f.text, faults := span.faults ++ [f.text] } ++
    .ofLog (Log.line ("[handshake] " ++ op ++ " error: " ++ f.text))

/-- Publishes an intent event. A fault of the publisher is only logged. -/
def announce (publish : Publish) (type : String) (data : IntentData) : Trace :=
  let e := Envelope.ofIntent type data
  .ofEvent ⟨data.intentId, e⟩ ++
    match publish e with
    | none => .empty
    | some f =>
      .ofLog (Log.line ("[events] publish " ++ type ++ " for " ++ data.intentId ++ " failed: " ++ f.text))

/-- The span of a creation up to the provider's reply. -/
def createSpan (p : CreateParams) : Span where
  name := "handshake.Create"
  parent := none
  attributes :=
    [("payment.amount", .number p.amount), ("payment.currency", .text p.currency),
      ("payment.method_bound", .flag (p.paymentMethod ≠ ""))]
  failure := none
  faults := []

/-- What a new intent leaves behind. -/
def created (publish : Publish) (p : CreateParams) (i : Intent) : Trace :=
  let span := createSpan p
  .ofLog (Log.line ("[handshake] created intent " ++ i.id ++ " status=" ++ i.status)) ++
    announce publish Envelope.createdType
      ⟨i.id, i.status, (IntentState.ofStatus i.status).text, false, ""⟩ ++
    .ofSpan { span with
      attributes := span.attributes ++
        [("payment.intent_id", .text i.id), ("payment.status", .text i.status)] }

/-- Opens a new intent and records it. -/
def create {σ : Type} (p : Provider σ) (publish : Publish) (r : Registry) (s : σ)
    (req : CreateRequest) : Outcome σ Created :=
  match accept req with
  | .error f => ⟨.error f, r, s, .empty⟩
  | .ok params =>
    match p.create params s with
    | (.error f, s) =>
      ⟨.error (.call createOp (some f)), r, s,
        .ofCall (.create params) ++ failure createOp (createSpan params) f⟩
    | (.ok i, s) =>
      ⟨.ok ⟨i.clientSecret, i.status⟩, r.put i.id i.status i.clientSecret, s,
        .ofCall (.create params) ++ created publish params i⟩

/-- The outcome that the provider's answer to an attach stands for. -/
def attachOutcome : Option Fault → AttachOutcome
  | none => .attached
  | some f => if f.isAlreadyAttached then .alreadyAttached else .failed

/-- What an attach leaves behind. Only a failure is logged. -/
def attachTrace (id method : String) (answer : Option Fault) : Trace :=
  let outcome := attachOutcome answer
  let span : Span :=
    ⟨"handshake.Attach", some "handshake.Confirm",
      [("payment.attach", .text outcome.text)], none, []⟩
  .ofCall (.attach id method) ++
    match outcome, answer with
    | .failed, some f =>
      .ofLog (Log.line ("[handshake] attach " ++ method ++ " to intent " ++ id ++
        " failed, proceeding to confirm: " ++ f.text)) ++
      .ofSpan { span with faults := [f.text] }
    | _, _ => .ofSpan span

/-- Attaches a payment method as far as that works; no method, nothing to do. -/
def attach {σ : Type} (p : Provider σ) (s : σ) (id method : String) : AttachOutcome × σ × Trace :=
  if method = "" then (.skipped, s, .empty)
  else
    let (answer, s) := p.attach method id s
    (attachOutcome answer, s, attachTrace id method answer)

/-- The span of a confirmation up to the provider's reply. -/
def confirmSpan (rec : Record) : Span where
  name := "handshake.Confirm"
  parent := none
  attributes :=
    [("payment.intent_id", .text rec.id), ("payment.previous_status", .text rec.status)]
  failure := none
  faults := []

/-- What the caller gets, given the record, the attach outcome and the reply. -/
def confirmedResult (rec : Record) (outcome : AttachOutcome) (i : Intent) : Confirmed :=
  { status := i.status
    requiresAction := i.requiresAction
    clientSecret := if i.requiresAction then rec.clientSecret else ""
    attach := outcome }

/-- The words of a truth value. -/
def flagText (b : Bool) : String := if b then "true" else "false"

/-- What a confirmation leaves behind. -/
def confirmed (publish : Publish) (rec : Record) (res : Confirmed) : Trace :=
  let span := confirmSpan rec
  .ofLog (Log.line ("[handshake] confirmed intent " ++ rec.id ++ " status=" ++ res.status ++
      " requires_action=" ++ flagText res.requiresAction ++ " attach=" ++ res.attach.text)) ++
    announce publish Envelope.confirmedType
      ⟨rec.id, res.status, (IntentState.ofStatus res.status).text, res.requiresAction,
        res.attach.text⟩ ++
    .ofSpan { span with
      attributes := span.attributes ++
        [("payment.status", .text res.status),
          ("payment.requires_action", .flag res.requiresAction)] }

/-- Confirms the intent of a record and records its new status. -/
def confirmRecord {σ : Type} (p : Provider σ) (publish : Publish) (r : Registry) (s : σ)
    (rec : Record) (method : String) : Outcome σ Confirmed :=
  let (outcome, s, attached) := attach p s rec.id method
  let before := attached ++ .ofCall (.confirm rec.id method)
  match p.confirm rec.id method s with
  | (.error f, s) =>
    ⟨.error (.call confirmOp (some f)), r, s, before ++ failure confirmOp (confirmSpan rec) f⟩
  | (.ok i, s) =>
    let res := confirmedResult rec outcome i
    ⟨.ok res, r.put rec.id i.status rec.clientSecret, s, before ++ confirmed publish rec res⟩

/-- Confirms the intent behind a client secret. -/
def confirm {σ : Type} (p : Provider σ) (publish : Publish) (r : Registry) (s : σ)
    (req : ConfirmRequest) : Outcome σ Confirmed :=
  match resolve r req with
  | (.error f, r) => ⟨.error f, r, s, .empty⟩
  | (.ok rec, r) => confirmRecord p publish r s rec (Text.trim req.paymentMethod)

end Handshake
end PaymentGateway
