/-
# The sandbox

A provider inside the process, for use without an account: it follows the
lifecycle of an intent. Three payment methods are special: one that always
succeeds like any other, one that asks for an authentication step first, and
one that is declined. Ids come from a sequence given from outside; creating an
intent takes two of them, the second for its secret.

Key definitions: `Sandbox`, `Sandbox.create`, `Sandbox.confirm`,
`Sandbox.attach`, `Sandbox.provider`, `CompactId.ofRandom`.
-/
import PaymentGateway.Provider
import PaymentGateway.Number.Decimal
import PaymentGateway.Text.Hex
import PaymentGateway.Text.LowerCase
import PaymentGateway.Text.Utf8

namespace PaymentGateway

namespace CompactId

/-- Random bytes marked as a version 4 identifier of the usual variant. -/
def mark (bytes : List UInt8) : List UInt8 :=
  bytes.mapIdx fun i b =>
    if i = 6 then UInt8.ofNat (b.toNat % 16 + 0x40)
    else if i = 8 then UInt8.ofNat (b.toNat % 64 + 0x80)
    else b

/-- The first 24 hexadecimal digits of a random identifier. -/
def ofRandom (bytes : List UInt8) : String :=
  String.ofList (((mark bytes).flatMap fun b => Text.Hex.padded 2 b.toNat).take 24)

end CompactId

namespace Sandbox

/-- The method that is asked for an authentication step. -/
def challengedMethod : String := "pm_card_threeDSecureRequired"

/-- The method that is declined. -/
def declinedMethod : String := "pm_card_chargeDeclined"

/-- An intent with its payment method ("" for none), amount and currency. -/
structure Holding where
  intent : Intent
  paymentMethod : String
  amount : Int
  currency : String
  deriving Repr, DecidableEq, Inhabited

end Sandbox

/-- The sandbox: the intents it created, oldest first, and how many ids it has
taken. -/
structure Sandbox where
  holdings : List Sandbox.Holding
  taken : Nat
  deriving Repr, DecidableEq

namespace Sandbox

variable [Unicode]

/-- A sandbox with no intents. -/
def empty : Sandbox := ⟨[], 0⟩

def createOp : String := "create payment intent"
def confirmOp : String := "confirm payment intent"
def attachOp : String := "attach payment method"

/-- The holding of an id. -/
def find? (s : Sandbox) (id : String) : Option Holding := s.holdings.find? (·.intent.id = id)

/-- Replaces the holding of `h`'s id by `h`. -/
def update (s : Sandbox) (h : Holding) : Sandbox :=
  { s with holdings := s.holdings.map fun x => if x.intent.id = h.intent.id then h else x }

/-- Adds a holding, or replaces the one of the same id. -/
def store (s : Sandbox) (h : Holding) : Sandbox :=
  if (s.find? h.intent.id).isSome then s.update h else { s with holdings := s.holdings ++ [h] }

/-- The fault of an operation on an id that is not held. -/
def missing (op id : String) : Fault :=
  .remote op "resource_missing" ("No such payment_intent: '" ++ id ++ "'") 404 none

/-- What is wrong with the parameters of a new intent. -/
def refuse? (p : CreateParams) : Option Fault :=
  if p.amount < 1 then
    some (.remote createOp "parameter_invalid_integer"
      "This value must be greater than or equal to 1." 400 none)
  else if (Text.Utf8.bytes p.currency).length ≠ 3 then
    some (.remote createOp "parameter_invalid_string"
      ("Invalid currency: " ++ Text.lower p.currency ++ ".") 400 none)
  else none

/-- The holding of a new intent, given its two ids. -/
def newHolding (idPart secretPart : String) (p : CreateParams) : Holding :=
  let id := "pi_" ++ idPart
  { intent :=
      { id
        clientSecret := id ++ "_secret_" ++ secretPart
        status :=
          if p.paymentMethod = "" then Status.requiresPaymentMethod
          else Status.requiresConfirmation
        nextAction := none }
    paymentMethod := p.paymentMethod
    amount := p.amount
    currency := Text.lower p.currency }

/-- Creates an intent. A refusal takes no id. -/
def create (ids : Nat → String) (p : CreateParams) (s : Sandbox) : Except Fault Intent × Sandbox :=
  match refuse? p with
  | some f => (.error f, s)
  | none =>
    let h := newHolding (ids (s.taken + 1)) (ids (s.taken + 2)) p
    (.ok h.intent, { s with taken := s.taken + 2 }.store h)

/-- Whether an intent in this status can no longer be confirmed. -/
def isFinal (status : String) : Bool :=
  status = Status.succeeded || status = Status.canceled || status = Status.requiresCapture

/-- The fault of a confirmation in the wrong state. -/
def unexpectedState (message : String) : Fault :=
  .remote confirmOp "payment_intent_unexpected_state" message 400 none

/-- The fault of a declined payment method. -/
def declined : Fault := .remote confirmOp "card_declined" "Your card was declined." 402 none

/-- A holding after a confirmation with the method `m`: declined, challenged,
or through. A second confirmation after the challenge counts as passed. -/
def confirmed (h : Holding) (m : String) : Except Fault Intent × Holding :=
  if m = declinedMethod then
    (.error declined,
      { h with
        intent := { h.intent with status := Status.requiresPaymentMethod, nextAction := none }
        paymentMethod := "" })
  else
    let intent :=
      if m = challengedMethod ∧ h.intent.status ≠ Status.requiresAction then
        { h.intent with status := Status.requiresAction, nextAction := some "use_stripe_sdk" }
      else { h.intent with status := Status.succeeded, nextAction := none }
    (.ok intent, { h with intent, paymentMethod := m })

/-- Confirms an intent with the given method or else the one it has. -/
def confirm (id method : String) (s : Sandbox) : Except Fault Intent × Sandbox :=
  match s.find? id with
  | none => (.error (missing confirmOp id), s)
  | some h =>
    if isFinal h.intent.status then
      (.error (unexpectedState ("This PaymentIntent's status is " ++ h.intent.status ++
        ", but must be one of requires_payment_method, requires_confirmation, or " ++
        "requires_action to be confirmed.")), s)
    else
      let m := if method = "" then h.paymentMethod else method
      if m = "" then
        (.error (unexpectedState
          "You cannot confirm this PaymentIntent because it's missing a payment method."), s)
      else
        let (reply, h) := confirmed h m
        (reply, s.update h)

/-- Attaches a payment method to an intent that does not have it yet. -/
def attach (method id : String) (s : Sandbox) : Option Fault × Sandbox :=
  match s.find? id with
  | none => (some (missing attachOp id), s)
  | some h =>
    if h.paymentMethod = method then
      (some (.wrapped "" .alreadyAttached (": " ++ method)), s)
    else (none, s.update { h with paymentMethod := method })

/-- The sandbox as a provider, taking its ids from `ids`. -/
def provider (ids : Nat → String) : Provider Sandbox where
  create := create ids
  confirm := confirm
  attach := attach

end Sandbox
end PaymentGateway
