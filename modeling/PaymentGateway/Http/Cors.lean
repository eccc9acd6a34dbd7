/-
# Cross-origin access

Every response lets pages of any origin read it. The header fields a page may
send are those it asks for, or the content type when it does not ask. A
preflight is answered here and goes no further.

Key definitions: `Http.Cors.fields`, `Http.Cors.isPreflight`.
-/
import PaymentGateway.Http.Message

namespace PaymentGateway
namespace Http
namespace Cors

/-- The field in which a page asks for header fields. -/
def requestField : String := "Access-Control-Request-Headers"

/-- The header fields a page may send. -/
def allowedFields (r : Request) : String :=
  if r.field requestField = "" then "Content-Type" else r.field requestField

/-- What is set on every response. The response varies with the request's wish
when it names one. -/
def fields (r : Request) : Fields :=
  [("Access-Control-Allow-Origin", "*"), ("Access-Control-Allow-Methods", "GET,POST,OPTIONS"),
    ("Access-Control-Allow-Headers", allowedFields r)] ++
  (if r.field requestField = "" then [] else [("Vary", requestField)])

/-- Whether a request only asks what it may do. -/
def isPreflight (r : Request) : Bool := r.method = "OPTIONS"

/-- The answer to a preflight. -/
def preflight : Response := .bare 204

end Cors
end Http
end PaymentGateway
