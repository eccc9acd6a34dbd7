/-
# The gateway

The handshake over HTTP: `Gateway.respond` takes a request to its response,
with the registry and the provider's state after it and what it left behind.
Cross-origin fields are on every response, whatever becomes of the request.

A fault of the handshake is a bad request when a field is at fault, not found
when the client secret is unknown, and otherwise a failure of the service. A
failed remote call has been logged already; any other failure is logged here.

Key definitions: `Backend`, `Gateway.respond`, `Gateway.faultResponse`.
-/
import PaymentGateway.Handshake
import PaymentGateway.Http.Body
import PaymentGateway.Http.Cors
import PaymentGateway.Http.Redirect
import PaymentGateway.Http.Route

namespace PaymentGateway

open Http Handshake

/-- The two operations that the gateway offers, over the registry and a
provider's state. -/
structure Backend (σ : Type) where
  create : Registry → σ → CreateRequest → Outcome σ Created
  confirm : Registry → σ → ConfirmRequest → Outcome σ Confirmed

namespace Backend

/-- The handshake with a provider. -/
def ofProvider {σ : Type} (p : Provider σ) (publish : Publish) : Backend σ :=
  ⟨Handshake.create p publish, Handshake.confirm p publish⟩

/-- Operations that only fail. -/
def failing {σ : Type} (f : Fault) : Backend σ :=
  ⟨fun r s _ => ⟨.error f, r, s, .empty⟩, fun r s _ => ⟨.error f, r, s, .empty⟩⟩

end Backend

namespace Gateway

/-- A response, the state after it and what it left behind. -/
structure Exchange (σ : Type) where
  response : Response
  registry : Registry
  remote : σ
  trace : Trace

/-- The response to a refused body. -/
def refusalResponse : Body.Refusal → Response
  | .malformed => .failure 400 "invalid JSON body"
  | .tooLarge => .failure 413 "request body too large"

/-- The response to a fault, and what it logs. -/
def faultResponse (f : Fault) : Response × Trace :=
  match f.invalid? with
  | some message => (.failure 400 message, .empty)
  | none =>
    if f.isNotFound then (.failure 404 f.text, .empty)
    else match f.call? with
      | some (_, text) => (.failure 500 text, .empty)
      | none => (.failure 500 f.text, .ofLog (Log.line ("[api] unexpected error: " ++ f.text)))

/-- The document of a new intent. -/
def createdJson (c : Created) : Json :=
  Json.ofMembers [("client_secret", Json.ofText c.clientSecret), ("status", Json.ofText c.status)]

/-- The document of a confirmation; a flag that is not set and an empty secret
are left out. -/
def confirmedJson (c : Confirmed) : Json :=
  Json.ofMembers <|
    [("status", Json.ofText c.status)] ++
    (if c.requiresAction then [("requires_action", Json.bool true)] else []) ++
    (if c.clientSecret = "" then [] else [("client_secret", Json.ofText c.clientSecret)])

/-- The document of the health probe. -/
def healthJson (intents : Nat) : Json :=
  Json.ofMembers [("intents", Json.ofInt intents), ("status", Json.ofText "ok")]

/-- The exchange that an operation's outcome amounts to. -/
def exchange {σ α : Type} (document : α → Json) (o : Outcome σ α) : Exchange σ :=
  match o.result with
  | .ok a => ⟨.json 200 (document a), o.registry, o.remote, o.trace⟩
  | .error f =>
    let (response, trace) := faultResponse f
    ⟨response, o.registry, o.remote, o.trace ++ trace⟩

/-- A response that changes nothing. -/
def still {σ : Type} (r : Registry) (s : σ) (response : Response) : Exchange σ :=
  ⟨response, r, s, .empty⟩

/-- Runs an operation on the request that a body holds. -/
def operate {σ α β : Type} (r : Registry) (s : σ) (document : β → Json)
    (op : Registry → σ → α → Outcome σ β) : Except Body.Refusal α → Exchange σ
  | .error refusal => still r s (refusalResponse refusal)
  | .ok req => exchange document (op r s req)

/-- Answers a request for a resource. The health probe counts the intents, or
none when it is not given a counter. -/
def serve {σ : Type} (b : Backend σ) (counted : Bool) (r : Registry) (s : σ) (req : Request) :
    Resource → Exchange σ
  | .process => operate r s createdJson b.create (Body.process req.body)
  | .confirm => operate r s confirmedJson b.confirm (Body.confirm req.body)
  | .health => still r s (.json 200 (healthJson (if counted then r.size else 0)))

/-- The response to a request for something that is not there. -/
def notFoundResponse : Response := .text 404 "404 page not found"

/-- The response to a method that the resource does not answer. -/
def methodResponse (allowed : List String) : Response :=
  (Response.text 405 "Method Not Allowed").withFields [("Allow", ", ".intercalate allowed)]

/-- The response to a request without a target. -/
def noTargetResponse : Response := (Response.bare 400).withFields [("Connection", "close")]

/-- Answers a request by its route. -/
def dispatch {σ : Type} (b : Backend σ) (counted : Bool) (r : Registry) (s : σ) (req : Request) :
    Exchange σ :=
  match Route.of req with
  | .found resource => serve b counted r s req resource
  | .moved url => still r s (Redirect.response req.method url)
  | .wrongMethod allowed => still r s (methodResponse allowed)
  | .noTarget => still r s noTargetResponse
  | .unknown => still r s notFoundResponse

/-- Answers a request. -/
def respond {σ : Type} (b : Backend σ) (counted : Bool) (r : Registry) (s : σ) (req : Request) :
    Exchange σ :=
  let x := if Cors.isPreflight req then still r s Cors.preflight else dispatch b counted r s req
  { x with response := x.response.withFields (Cors.fields req) }

end Gateway
end PaymentGateway
