/-
# Publishers

Where events go: nowhere, or to a producer that writes them to the topic of a
message broker. A producer writes the event first, so an event that has no
text fails even on a closed producer; delivery itself goes on in the
background and fails no one.

Key definitions: `Publisher`, `Publisher.publish`, `Publisher.close`.
-/
import PaymentGateway.Event.Envelope

namespace PaymentGateway

/-- A publisher: none, or a producer for a topic. -/
inductive Publisher where
  | none
  | producer (brokers : List String) (topic : String) (closed : Bool)
  deriving Repr, DecidableEq

namespace Publisher

/-- Publishes an event at the time `now`: what went wrong, if anything. -/
def publish (p : Publisher) (now : Moment) (e : Envelope) : Option Fault :=
  match p with
  | .none => Option.none
  | .producer _ _ closed =>
    match e.write now with
    | .error f => some f
    | .ok _ => if closed then some (.plain "io: read/write on closed pipe") else Option.none

/-- The publisher after it is closed. -/
def close : Publisher → Publisher
  | .none => .none
  | .producer brokers topic _ => .producer brokers topic true

end Publisher
end PaymentGateway
