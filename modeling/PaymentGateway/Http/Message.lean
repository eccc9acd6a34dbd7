/-
# Requests and responses

A request with its header fields and body, a response with the fields it sets.
Field names are compared without regard to case, and of several fields with
one name the first counts.

Key definitions: `Http.Request`, `Http.Request.field`, `Http.Response`,
`Http.Response.json`, `Http.Response.text`.
-/
import PaymentGateway.Json.Writer

namespace PaymentGateway
namespace Http

/-- Header fields in order: name and value. -/
abbrev Fields := List (String × String)

/-- A name with its case removed. -/
def foldName (name : String) : List Char := name.toList.map Char.toLower

/-- A request: method, target, header fields and body. -/
structure Request where
  method : String
  target : String
  fields : Fields
  body : List UInt8
  deriving Repr, DecidableEq

/-- The value of the first field with this name, "" when there is none. -/
def Request.field (r : Request) (name : String) : String :=
  match r.fields.find? fun f => foldName f.1 == foldName name with
  | some f => f.2
  | none => ""

/-- A response: status, header fields and body. -/
structure Response where
  status : Nat
  fields : Fields
  body : String
  deriving Repr, DecidableEq

namespace Response

/-- The response with fields in front of its own. -/
def withFields (r : Response) (fields : Fields) : Response :=
  { r with fields := fields ++ r.fields }

/-- A response without content. -/
def bare (status : Nat) : Response := ⟨status, [], ""⟩

/-- A JSON document on a line of its own. -/
def json (status : Nat) (v : Json) : Response :=
  ⟨status, [("Content-Type", "application/json")], v.render ++ "\n"⟩

/-- A line of text. -/
def text (status : Nat) (line : String) : Response :=
  ⟨status,
    [("Content-Type", "text/plain; charset=utf-8"), ("X-Content-Type-Options", "nosniff")],
    line ++ "\n"⟩

/-- A failure, as a document with its message. -/
def failure (status : Nat) (message : String) : Response :=
  json status (Json.ofMembers [("error", Json.ofText message)])

end Response
end Http
end PaymentGateway
