/-
# The command line

`audit` reads event messages from the standard input, one per line, and prints
the audit trail. Without a command the settings are read from the environment
and what the service would log at its start is printed.
-/
import PaymentGateway.App
import PaymentGateway.Event.Audit

namespace PaymentGateway
namespace Main

/-- The variables of this process that settings are read from. -/
def environment : IO Environment := do
  let found ← Settings.names.mapM fun name => do
    return (← IO.getEnv name).map fun value => (name, value)
  return found.filterMap id

/-- Reads the rest of the input as messages of a topic, numbered from `offset`. -/
partial def messages (topic : String) (offset : Nat) (done : List Audit.Message) :
    IO (List Audit.Message) := do
  let line ← (← IO.getStdin).getLine
  if line.isEmpty then return done.reverse
  messages topic (offset + 1) (⟨topic, 0, offset, Text.Utf8.bytes line⟩ :: done)

/-- Prints the audit trail of the input. -/
def audit (s : Settings) : IO UInt32 := do
  IO.println ("[intent-worker] consuming " ++ s.paymentsTopic ++ " (group=" ++ s.auditGroup ++ ")")
  let (log, fault) := Audit.consume (← messages s.paymentsTopic 0 []) .canceled none
  for line in log do
    IO.println ("[intent-worker] " ++ line)
  match fault with
  | some f =>
    IO.println ("[intent-worker] stopped with error: " ++ f.text)
    return 1
  | none =>
    IO.println "[intent-worker] stopped"
    return 0

/-- Prints what the service logs at its start. -/
def start (s : Settings) : IO UInt32 := do
  for line in App.opening s ++ App.starting s do
    IO.println ("[" ++ s.serviceName ++ "] " ++ line)
  return 0

end Main
end PaymentGateway

open PaymentGateway in
def main (args : List String) : IO UInt32 := do
  match Settings.load (← Main.environment) with
  | .error f =>
    IO.eprintln f.text
    return 1
  | .ok s => if args = ["audit"] then Main.audit s else Main.start s
