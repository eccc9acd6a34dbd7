/-
# Requests to Stripe

Each operation is one POST: a path with at most one escaped segment of the
caller's choosing, and a form. The account names the server, signs the request
and bounds how long it may take.

Key definitions: `Stripe.Operation`, `Stripe.Account`, `Stripe.Request.of`.
-/
import PaymentGateway.Number.Decimal
import PaymentGateway.Provider
import PaymentGateway.Url.Form

namespace PaymentGateway
namespace Stripe

/-- What is asked of the service. -/
inductive Operation where
  | create (params : CreateParams)
  | confirm (id paymentMethod : String)
  | attach (paymentMethod id : String)
  deriving Repr, DecidableEq

namespace Operation

/-- How the operation is called in faults. -/
def name : Operation → String
  | create _ => "create payment intent"
  | confirm _ _ => "confirm payment intent"
  | attach _ _ => "attach payment method"

/-- A caller's text as one segment of a path. -/
def segment (s : String) : String := String.ofList (Percent.escape s)

/-- The path of the operation. -/
def path : Operation → String
  | create _ => "/v1/payment_intents"
  | confirm id _ => "/v1/payment_intents/" ++ segment id ++ "/confirm"
  | attach method _ => "/v1/payment_methods/" ++ segment method ++ "/attach"

/-- A payment method as a form pair; none when it is empty. -/
def methodPair (method : String) : Form :=
  if method = "" then [] else [("payment_method", method)]

/-- The form of the operation. An intent is created unconfirmed, to be
confirmed by hand. -/
def form : Operation → Form
  | create p =>
    [("amount", Digits.text p.amount), ("confirm", "false"), ("confirmation_method", "manual"),
      ("currency", p.currency)] ++ methodPair p.paymentMethod
  | confirm _ method => methodPair method
  | attach _ id => [("payment_intent", id)]

end Operation

/-- An account: its secret key, the server ("" for the public one) and the time
a request may take (in nanoseconds, the default when it is not positive). -/
structure Account where
  secretKey : String
  apiUrl : String
  timeout : Int
  deriving Repr, DecidableEq

namespace Account

/-- The public server. -/
def publicServer : String := "https://api.stripe.com"

/-- A text without `/v1` at its end. -/
def withoutVersion (s : String) : String :=
  match s.toList.reverse with
  | '1' :: 'v' :: '/' :: rest => String.ofList rest.reverse
  | _ => s

/-- What every path is appended to: the server without slashes and without a
version at its end. -/
def server (a : Account) : String :=
  if a.apiUrl = "" then publicServer else withoutVersion (Text.trimEndSlashes a.apiUrl)

/-- The time a request may take unless the account says otherwise: 80 s. -/
def defaultTimeout : Int := 80000000000

/-- The time a request may take. -/
def timeLimit (a : Account) : Int := if a.timeout ≤ 0 then defaultTimeout else a.timeout

end Account

/-- A request as it goes out. -/
structure Request where
  method : String
  url : String
  body : String
  authorization : String
  contentType : String
  deriving Repr, DecidableEq

/-- The request of an operation. -/
def Request.of (a : Account) (op : Operation) : Request where
  method := "POST"
  url := a.server ++ op.path
  body := op.form.encode
  authorization := "Bearer " ++ a.secretKey
  contentType := Form.mediaType

end Stripe
end PaymentGateway
