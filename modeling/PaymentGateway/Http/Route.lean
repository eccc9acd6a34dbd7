/-
# Routes

Three resources, each with the methods it answers. A target is an absolute path
or a full address, of which only path and query count; the target of a CONNECT
may be a host instead. The path has to be clean: whatever it leads to, a request
with any other path is sent on to the clean one. Its segments are compared
after their escapes are undone, so an escaped slash does not divide segments.

Key definitions: `Http.Resource`, `Http.Route`, `Http.Route.moved?`,
`Http.Route.of`.
-/
import PaymentGateway.Http.Message
import PaymentGateway.Url.Address
import PaymentGateway.Url.CleanPath

namespace PaymentGateway
namespace Http

/-- What can be asked for. -/
inductive Resource where
  | process | confirm | health
  deriving Repr, DecidableEq

namespace Resource

/-- The path of a resource. -/
def segments : Resource → List String
  | process => ["payments", "process"]
  | confirm => ["payments", "confirm"]
  | health => ["healthz"]

/-- The methods a resource answers. -/
def methods : Resource → List String
  | process => ["POST"]
  | confirm => ["POST"]
  | health => ["GET", "HEAD"]

/-- All resources. -/
def all : List Resource := [process, confirm, health]

end Resource

/-- Where a request leads. -/
inductive Route where
  | found (resource : Resource)
  | moved (url : String)
  | wrongMethod (allowed : List String)
  | noTarget
  | unknown
  deriving Repr, DecidableEq

namespace Route

/-- The target of a request as an address. A CONNECT whose target is not a path
means a host. -/
def target (r : Request) : String :=
  if r.method = "CONNECT" ∧ r.target.toList.head? ≠ some '/' then "http://" ++ r.target
  else r.target

/-- The segments of a target's path; `none` when the target is neither an
absolute path nor a full address. -/
def segments? (target : String) : Option (List String) :=
  match (Address.parseTarget? target).map (·.spelledPath) with
  | some ('/' :: path) => (Text.split '/' path).mapM Percent.unescape?
  | _ => none

/-- The resource at a target. -/
def resource? (target : String) : Option Resource :=
  (segments? target).bind fun path => Resource.all.find? fun x => x.segments == path

/-- The path of an address as it is written. -/
def writtenPath (a : Address) : List Char := Address.respelled Address.isPathChar a.spelledPath

/-- The address of the clean path, with the query unless it is empty. The path
is cleaned as it is written, and its escapes are escaped once more. -/
def cleaned (a : Address) : Address :=
  .ofPath (Path.clean (writtenPath a)) (a.query.filter fun q => !q.isEmpty)

/-- Where a request is sent on to: to the clean path if its own is not clean.
A CONNECT is not sent on. -/
def moved? (r : Request) : Option String := do
  let a ← Address.parseTarget? r.target
  if r.method = "CONNECT" ∨ Path.clean (writtenPath a) = writtenPath a then none
  else some (cleaned a).render

/-- The route of a request. -/
def of (r : Request) : Route :=
  if r.target = "*" then noTarget
  else match moved? r with
    | some url => moved url
    | none =>
      match resource? (target r) with
      | none => unknown
      | some x => if x.methods.contains r.method then found x else wrongMethod x.methods

end Route
end Http
end PaymentGateway
