/-
# The audit trail

The audit worker reads messages one after another and logs a line for each
intent event, a complaint for each message that is no event, and nothing for
events of other types. It ends without fault when its wait is cancelled.

Key definitions: `Audit.line`, `Audit.describe`, `Audit.loop`, `Audit.consume`.
-/
import PaymentGateway.Event.Envelope
import PaymentGateway.Log

namespace PaymentGateway
namespace Audit

/-- The words of a truth value. -/
def yesNo (b : Bool) : String := if b then "true" else "false"

/-- The line of an intent event. The flag and the attach outcome belong to
confirmations; a time that was not set is left out. -/
def line (e : Envelope) (d : IntentData) : String :=
  e.type ++ " intent=" ++ d.intentId ++ " status=" ++ d.status ++ " state=" ++ d.state ++
  (if e.type = Envelope.confirmedType then
    " requires_action=" ++ yesNo d.requiresAction ++
      (if d.attach = "" then "" else " attach=" ++ d.attach)
  else "") ++
  (if e.occurredAt.isZero then "" else " at=" ++ e.occurredAt.utcMillis)

/-- The line of a message, `none` for an event of another type. -/
def describe (message : List UInt8) : Except Envelope.ReadFault (Option String) :=
  match Envelope.read message with
  | .error (f, _) => .error f
  | .ok (e, data) => .ok (data.map (line e))

/-- A message and where it was read. -/
structure Message where
  topic : String
  partition : Int
  offset : Int
  value : List UInt8
  deriving Repr, DecidableEq

/-- What is logged for a message. -/
def report? (m : Message) : Option String :=
  match describe m.value with
  | .ok none => none
  | .ok (some l) => some l
  | .error f =>
    some ("bad event at " ++ m.topic ++ "/" ++ Digits.text m.partition ++ "@" ++
      Digits.text m.offset ++ ": " ++ f.text)

/-- Whether the wait is cancelled by the read after `n` messages, when it is
cancelled as read number `at?` starts (counted from 0). -/
def canceledBy (at? : Option Nat) (n : Nat) : Bool :=
  match at? with
  | some k => k ≤ n
  | none => false

/-- The loop of the worker over what its reads give, the first of them read
number `n`: a message is reported, whatever it is, and the next one is read; the
first fault ends the loop. Gives the log and, if the loop has ended, the fault
it ends with: none when the wait was cancelled. -/
def loop (at? : Option Nat) :
    Nat → List (Except Fault Message) → List String × Option (Option Fault)
  | _, [] => ([], none)
  | n, .error f :: _ =>
    ([], some (if canceledBy at? n || f.isCanceled then none
      else some (.wrapped "read message: " f "")))
  | n, .ok m :: reads =>
    let (log, ending) := loop at? (n + 1) reads
    (((report? m).map Log.line).toList ++ log, ending)

/-- Reads the messages, then meets `last`, the fault that ends the reading.
Gives the log and the fault the worker ends with. -/
def consume (messages : List Message) (last : Fault) (at? : Option Nat) :
    List String × Option Fault :=
  let (log, ending) := loop at? 0 (messages.map .ok ++ [.error last])
  (log, ending.join)

end Audit
end PaymentGateway
