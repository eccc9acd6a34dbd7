/-
# Telemetry

Where traces are exported to, and what starting the tracer logs. The endpoint
is a full address or just a host with a port; what it leaves open, or cannot be
read, falls back to a collector on the local host.

Key definitions: `Endpoint`, `Endpoint.ofText`, `Telemetry.startLine`.
-/
import PaymentGateway.Url.Address

namespace PaymentGateway

/-- Where traces go: host with port, path, and whether the connection is in
the clear. -/
structure Endpoint where
  host : String
  path : String
  insecure : Bool
  deriving Repr, DecidableEq

namespace Endpoint

/-- The collector on the local host. -/
def default : Endpoint := ⟨"localhost:4318", "/v1/traces", true⟩

/-- Whether a text starts with one of the two schemes. -/
def hasScheme (s : String) : Bool :=
  "http://".toList.isPrefixOf s.toList || "https://".toList.isPrefixOf s.toList

/-- The endpoint at an address; an empty host or path falls back. -/
def ofAddress (a : Address) : Endpoint where
  host := if a.host = "" then default.host else a.host
  path := if a.path = "" then default.path else a.path
  insecure := a.scheme = "http"

/-- The endpoint a setting names. -/
def ofText (raw : String) : Endpoint :=
  let s := Text.trim raw
  if s = "" then default
  else if hasScheme s then
    match Address.parse s with
    | .ok a => ofAddress a
    | .error _ => default
  else { default with host := s }

end Endpoint

namespace Telemetry

/-- The header fields through which a trace is handed on. -/
def propagated : List String := ["baggage", "traceparent", "tracestate"]

/-- What starting the tracer of a service logs. -/
def startLine (service : String) (disabled : Bool) : String :=
  if disabled then "[telemetry] tracing disabled"
  else "[telemetry] OpenTelemetry initialized for service: " ++ service

end Telemetry
end PaymentGateway
