/-
# Traces

What an operation leaves behind besides its result: the calls it made to the
provider, its log lines, the events it published and the spans it ended, each
in order.

Key definitions: `Call`, `Span`, `Publication`, `Trace`.
-/
import PaymentGateway.Event.Envelope
import PaymentGateway.Provider

namespace PaymentGateway

/-- A call to the provider. -/
inductive Call where
  | create (params : CreateParams)
  | confirm (id paymentMethod : String)
  | attach (id paymentMethod : String)
  deriving Repr, DecidableEq

/-- The value of a span's attribute. -/
inductive Attribute where
  | text (value : String)
  | flag (value : Bool)
  | number (value : Int)
  deriving Repr, DecidableEq

/-- A span: its name and its parent's, its attributes, the description of its
failure if it failed, and the texts of the faults recorded in it. -/
structure Span where
  name : String
  parent : Option String
  attributes : List (String × Attribute)
  failure : Option String
  faults : List String
  deriving Repr, DecidableEq

/-- An event handed to the publisher under a key. -/
structure Publication where
  key : String
  envelope : Envelope

/-- Everything an operation leaves behind. -/
structure Trace where
  calls : List Call
  log : List String
  events : List Publication
  spans : List Span

namespace Trace

/-- Nothing left behind. -/
def empty : Trace := ⟨[], [], [], []⟩

/-- One trace after another. -/
def append (a b : Trace) : Trace :=
  ⟨a.calls ++ b.calls, a.log ++ b.log, a.events ++ b.events, a.spans ++ b.spans⟩

instance : Append Trace := ⟨append⟩

/-- A provider call alone. -/
def ofCall (c : Call) : Trace := { empty with calls := [c] }

/-- A log line alone. -/
def ofLog (s : String) : Trace := { empty with log := [s] }

/-- A span alone. -/
def ofSpan (s : Span) : Trace := { empty with spans := [s] }

/-- A publication alone. -/
def ofEvent (p : Publication) : Trace := { empty with events := [p] }

end Trace
end PaymentGateway
