/-
# Providers

A provider is the remote payment service: it creates and confirms intents and
attaches payment methods, over a state of its own. A script is the provider
that gives the replies it was handed, whatever it is asked.

Key definitions: `CreateParams`, `Provider`, `Script.provider`.
-/
import PaymentGateway.Fault
import PaymentGateway.Intent

namespace PaymentGateway

/-- A new intent: its amount in minor units, its currency, and the payment
method it starts with ("" for none). -/
structure CreateParams where
  amount : Int
  currency : String
  paymentMethod : String
  deriving Repr, DecidableEq, Inhabited

/-- A remote payment service with state `σ`. -/
structure Provider (σ : Type) where
  /-- Creates an intent without confirming it. -/
  create : CreateParams → σ → Except Fault Intent × σ
  /-- Confirms the intent with this id, with this payment method ("" for none). -/
  confirm : String → String → σ → Except Fault Intent × σ
  /-- Attaches this payment method to the intent with this id. -/
  attach : String → String → σ → Option Fault × σ

/-- Replies fixed in advance. -/
structure Script where
  create : Except Fault Intent
  confirm : Except Fault Intent
  attach : Option Fault

/-- The provider that gives the replies of its script. -/
def Script.provider : Provider Script where
  create _ s := (s.create, s)
  confirm _ _ s := (s.confirm, s)
  attach _ _ s := (s.attach, s)

end PaymentGateway
