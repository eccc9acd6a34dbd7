/-
# Payment intents

An intent as the remote service reports it, its status folded into a closed
set of states, and when the customer has to act.

Key definitions: `Intent`, `IntentState.ofStatus`, `Intent.requiresAction`.
-/
namespace PaymentGateway

namespace Status

def requiresPaymentMethod : String := "requires_payment_method"
def requiresConfirmation : String := "requires_confirmation"
def requiresAction : String := "requires_action"
def processing : String := "processing"
def requiresCapture : String := "requires_capture"
def succeeded : String := "succeeded"
def canceled : String := "canceled"

end Status

/-- The states an intent is seen in. -/
inductive IntentState where
  | pending | actionRequired | processing | succeeded | canceled | unknown
  deriving Repr, DecidableEq

namespace IntentState

/-- The state of a status; a status that is not known stays unknown. -/
def ofStatus (status : String) : IntentState :=
  if status = Status.requiresPaymentMethod ∨ status = Status.requiresConfirmation then pending
  else if status = Status.requiresAction then actionRequired
  else if status = Status.processing then processing
  else if status = Status.requiresCapture ∨ status = Status.succeeded then succeeded
  else if status = Status.canceled then canceled
  else unknown

/-- The name of a state. -/
def text : IntentState → String
  | pending => "pending"
  | actionRequired => "action_required"
  | processing => "processing"
  | succeeded => "succeeded"
  | canceled => "canceled"
  | unknown => "unknown"

end IntentState

/-- An intent after a call: its id, the secret its customer holds, its status
and the kind of the action the customer is asked for, if any. -/
structure Intent where
  id : String
  clientSecret : String
  status : String
  nextAction : Option String
  deriving Repr, DecidableEq, Inhabited

/-- The customer has to act: the status says so, or an action is pending. -/
def Intent.requiresAction (i : Intent) : Bool :=
  IntentState.ofStatus i.status = .actionRequired || i.nextAction.isSome

end PaymentGateway
