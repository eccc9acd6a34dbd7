/-
# The service as a whole

Settings decide what the service is made of: the registry's bounds, the
provider, the publisher and where it listens. `App.opening` and `App.starting`
are what it logs on the way; a log entry is marked with the name of the service
and the time.

Key definitions: `App.provider`, `App.publisher`, `App.registry`,
`App.opening`, `App.starting`, `App.journal`.
-/
import PaymentGateway.Event.Publisher
import PaymentGateway.Gateway
import PaymentGateway.Listen
import PaymentGateway.Sandbox
import PaymentGateway.Settings
import PaymentGateway.Stripe.Adapter
import PaymentGateway.Telemetry

namespace PaymentGateway
namespace App

variable [Unicode]

/-- The registry of a service, still empty. -/
def registry (s : Settings) : Registry := Registry.new s.registryCapacity s.registryTtl

/-- The account a service uses with the remote provider. -/
def account (s : Settings) : Stripe.Account := ⟨s.stripeSecretKey, s.stripeApiUrl, s.providerTimeout⟩

/-- A provider over the first part of a state. -/
def onFirst {σ τ : Type} (p : Provider σ) : Provider (σ × τ) where
  create params s := let (reply, a) := p.create params s.1; (reply, a, s.2)
  confirm id method s := let (reply, a) := p.confirm id method s.1; (reply, a, s.2)
  attach method id s := let (reply, a) := p.attach method id s.1; (reply, a, s.2)

/-- A provider over the second part of a state. -/
def onSecond {σ τ : Type} (p : Provider τ) : Provider (σ × τ) where
  create params s := let (reply, b) := p.create params s.2; (reply, s.1, b)
  confirm id method s := let (reply, b) := p.confirm id method s.2; (reply, s.1, b)
  attach method id s := let (reply, b) := p.attach method id s.2; (reply, s.1, b)

/-- The provider of a service, given ids for the sandbox and a connection for
the remote service. -/
def provider {ω : Type} (s : Settings) (ids : Nat → String) (wire : Stripe.Wire ω) :
    Provider (Sandbox × ω) :=
  match s.provider with
  | .sandbox => onFirst (Sandbox.provider ids)
  | .stripe => onSecond (Stripe.provider (account s) wire)

/-- The publisher of a service. -/
def publisher (s : Settings) : Publisher :=
  if s.publishes then .producer s.brokers s.paymentsTopic false else .none

/-- The gateway's operations, with events published at the time `now`. -/
def backend {ω : Type} (s : Settings) (ids : Nat → String) (wire : Stripe.Wire ω) (now : Moment) :
    Backend (Sandbox × ω) :=
  Backend.ofProvider (provider s ids wire) ((publisher s).publish now)

/-- How long a client may take to send the header of a request: 10 s. -/
def headerTimeout : Int := 10000000000

/-- What is logged about the provider. -/
def providerLine (s : Settings) : String :=
  match s.provider with
  | .stripe => "Using Stripe payment provider (timeout " ++ Duration.text s.providerTimeout ++ ")"
  | .sandbox => "STRIPE_SECRET_KEY not set, using sandbox payment provider"

/-- What is logged as the service is put together. -/
def opening (s : Settings) : List String :=
  ["Starting " ++ s.serviceName ++ "...", providerLine s] ++
  (if s.publishes then [] else ["KAFKA_BROKERS not set, intent events disabled"])

/-- What is logged as the service starts to listen. -/
def starting (s : Settings) : List String :=
  [Telemetry.startLine s.serviceName s.tracingDisabled,
    "Payments API listening on " ++ s.listenAddress] ++
  (match Listen.fault? s.listenAddress with
    | some f => ["Payments API server error: " ++ f.text]
    | none => [])

/-- The lines of a log entry, marked with the service and the time. -/
def marked (s : Settings) (time entry : String) : List String :=
  Log.lines ("[" ++ s.serviceName ++ "] " ++ time ++ " ") entry

/-- The whole log: putting the service together, the entries of the requests it
served, and starting to listen if it does. -/
def journal (s : Settings) (time : String) (served : List String) (listens : Bool) : List String :=
  (opening s ++ served ++ (if listens then starting s else [])).flatMap (marked s time)

end App
end PaymentGateway
