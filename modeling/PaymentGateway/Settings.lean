/-
# Settings

The settings of the service, read from the environment with defaults. Reading
stops at the first variable that is not well formed: the two timeouts, the
registry's time to live and capacity, the tracing switch, then the provider.
Without a provider named, the key decides: the remote service when there is
one, the sandbox otherwise.

Key definitions: `Settings`, `Settings.load`, `Settings.Fault.text`.
-/
import PaymentGateway.Environment
import PaymentGateway.Number.Integer
import PaymentGateway.Text.Blank
import PaymentGateway.Text.LowerCase
import PaymentGateway.Text.Quoted
import PaymentGateway.Time.Duration

namespace PaymentGateway

namespace Settings

/-- Which provider is used. -/
inductive ProviderName where
  | stripe | sandbox
  deriving Repr, DecidableEq

/-- How a provider is named. -/
def ProviderName.text : ProviderName → String
  | stripe => "stripe"
  | sandbox => "sandbox"

end Settings

/-- The settings; durations in nanoseconds, and no time to live when it is not
positive. -/
structure Settings where
  serviceName : String
  listenAddress : String
  shutdownTimeout : Int
  provider : Settings.ProviderName
  stripeSecretKey : String
  stripeApiUrl : String
  providerTimeout : Int
  registryCapacity : Nat
  registryTtl : Int
  brokers : List String
  paymentsTopic : String
  auditGroup : String
  tracesEndpoint : String
  tracingDisabled : Bool
  deriving Repr, DecidableEq

namespace Settings

variable [Unicode]

/-- Why an environment makes no settings. -/
inductive Fault where
  | duration (name raw : String) (cause : Duration.Fault)
  | integer (name raw : String) (cause : Integer.Fault)
  | negativeCapacity (value : Int)
  | flag (name raw : String)
  | missingKey
  | unknownProvider (name : String)
  deriving Repr, DecidableEq

/-- How a fault is worded. -/
def Fault.text : Fault → String
  | duration name raw cause => "parse " ++ name ++ ": " ++ cause.text raw
  | integer name raw cause =>
    "parse " ++ name ++ ": strconv.Atoi: parsing " ++ Text.quote raw ++ ": " ++ cause.text
  | negativeCapacity value =>
    "INTENT_REGISTRY_CAPACITY must not be negative, got " ++ Digits.text value
  | flag name raw =>
    "parse " ++ name ++ ": strconv.ParseBool: parsing " ++ Text.quote raw ++ ": " ++
      Integer.Fault.syntactic.text
  | missingKey => "PAYMENT_PROVIDER=stripe requires STRIPE_SECRET_KEY"
  | unknownProvider name => "unknown PAYMENT_PROVIDER " ++ Text.quote name

/-- The variables that settings are read from. -/
def names : List String :=
  ["SERVICE_NAME", "HTTP_LISTEN_ADDR", "PORT", "HTTP_SHUTDOWN_TIMEOUT", "PAYMENT_PROVIDER",
    "STRIPE_SECRET_KEY", "STRIPE_API_URL", "PROVIDER_TIMEOUT", "INTENT_REGISTRY_CAPACITY",
    "INTENT_REGISTRY_TTL", "KAFKA_BROKERS", "KAFKA_PAYMENTS_TOPIC", "KAFKA_AUDIT_GROUP_ID",
    "OTEL_EXPORTER_OTLP_TRACES_ENDPOINT", "OTEL_SDK_DISABLED"]

/-- The truth value a word stands for. -/
def readFlag? (s : String) : Option Bool :=
  if ["1", "t", "T", "true", "TRUE", "True"].contains s then some true
  else if ["0", "f", "F", "false", "FALSE", "False"].contains s then some false
  else none

/-- A duration from the environment, or its default. -/
def duration (e : Environment) (name : String) (fallback : Int) : Except Fault Int :=
  let raw := e.get name
  if raw = "" then .ok fallback
  else match Duration.read raw with
    | .ok d => .ok d
    | .error f => .error (.duration name raw f)

/-- The capacity from the environment; none means unbounded. -/
def capacity (e : Environment) (name : String) : Except Fault Nat :=
  let raw := e.get name
  if raw = "" then .ok 0
  else match Integer.readSigned raw with
    | .error f => .error (.integer name raw f)
    | .ok n => if n < 0 then .error (.negativeCapacity n) else .ok n.toNat

/-- A switch from the environment, off by default. -/
def switch (e : Environment) (name : String) : Except Fault Bool :=
  let raw := e.get name
  if raw = "" then .ok false
  else match readFlag? raw with
    | some b => .ok b
    | none => .error (.flag name raw)

/-- The name of the provider that the environment asks for. -/
def requestedProvider (e : Environment) : String :=
  let byKey : ProviderName := if e.get "STRIPE_SECRET_KEY" = "" then .sandbox else .stripe
  Text.lower (e.getOr "PAYMENT_PROVIDER" byKey.text)

/-- The provider of an environment. The remote service needs a key. -/
def providerName (e : Environment) : Except Fault ProviderName :=
  let name := requestedProvider e
  if name = ProviderName.stripe.text then
    if e.get "STRIPE_SECRET_KEY" = "" then .error .missingKey else .ok .stripe
  else if name = ProviderName.sandbox.text then .ok .sandbox
  else .error (.unknownProvider name)

/-- The settings of an environment. -/
def load (e : Environment) : Except Fault Settings := do
  let shutdownTimeout ← duration e "HTTP_SHUTDOWN_TIMEOUT" 5000000000
  let providerTimeout ← duration e "PROVIDER_TIMEOUT" 80000000000
  let registryTtl ← duration e "INTENT_REGISTRY_TTL" 0
  let registryCapacity ← capacity e "INTENT_REGISTRY_CAPACITY"
  let tracingDisabled ← switch e "OTEL_SDK_DISABLED"
  let provider ← providerName e
  return {
    serviceName := e.getOr "SERVICE_NAME" "payments-gateway"
    listenAddress := e.getOr "HTTP_LISTEN_ADDR" (":" ++ e.getOr "PORT" "4242")
    shutdownTimeout
    provider
    stripeSecretKey := e.get "STRIPE_SECRET_KEY"
    stripeApiUrl := e.get "STRIPE_API_URL"
    providerTimeout
    registryCapacity
    registryTtl
    brokers := Text.nonBlankParts (e.get "KAFKA_BROKERS")
    paymentsTopic := e.getOr "KAFKA_PAYMENTS_TOPIC" "payments.v1"
    auditGroup := e.getOr "KAFKA_AUDIT_GROUP_ID" "intent-audit"
    tracesEndpoint :=
      e.getOr "OTEL_EXPORTER_OTLP_TRACES_ENDPOINT" "http://localhost:4318/v1/traces"
    tracingDisabled }

/-- Whether intent events are published. -/
def publishes (s : Settings) : Bool := !s.brokers.isEmpty

end Settings
end PaymentGateway
