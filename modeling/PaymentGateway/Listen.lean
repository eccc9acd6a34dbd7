/-
# Listen addresses

A listen address is a host and a port with a colon between them; the host may
be empty, and one that contains colons stands in brackets. The port is a number
up to 65535 or the name of a well-known service. The number is a word of 32 bits
that may wrap around once while it is read.

Key definitions: `Listen.portOf`, `Listen.portNumber?`, `Listen.fault?`.
-/
import PaymentGateway.Number.Integer
import PaymentGateway.Text.Blank

namespace PaymentGateway
namespace Listen

/-- Why an address cannot be listened on. -/
inductive Fault where
  | missingPort (address : String)
  | tooManyColons (address : String)
  | missingBracket (address : String)
  | strayBracket (bracket : Char) (address : String)
  | invalidPort (port : String)
  | unknownService (name : String)
  deriving Repr, DecidableEq

/-- A complaint about an address, which is named unless it is empty. -/
def about (address why : String) : String :=
  if address = "" then why else "address " ++ address ++ ": " ++ why

/-- How a fault is worded. -/
def Fault.text : Fault → String
  | missingPort a => "listen tcp: " ++ about a "missing port in address"
  | tooManyColons a => "listen tcp: " ++ about a "too many colons in address"
  | missingBracket a => "listen tcp: " ++ about a "missing ']' in address"
  | strayBracket c a =>
    "listen tcp: " ++ about a ("unexpected '" ++ String.singleton c ++ "' in address")
  | invalidPort p => "listen tcp: " ++ about p "invalid port"
  | unknownService n => "listen tcp: lookup tcp/" ++ n ++ ": unknown port"

/-- What an address in brackets has as its port: the first closing bracket and
the last colon stand together. `cs` follows the opening bracket. -/
def bracketPort (address : String) (cs : List Char) : Except Fault (List Char) :=
  match Text.cut ']' cs with
  | (_, none) => .error (.missingBracket address)
  | (_, some []) => .error (.missingPort address)
  | (host, some (':' :: port)) =>
    if port.contains ':' then .error (.tooManyColons address)
    else if (host ++ port).contains '[' then .error (.strayBracket '[' address)
    else if port.contains ']' then .error (.strayBracket ']' address)
    else .ok port
  | (_, some _) => .error (.missingPort address)

/-- What an address has as its port. -/
def portOf (address : String) : Except Fault (List Char) :=
  let cs := address.toList
  if !cs.contains ':' then .error (.missingPort address)
  else match cs with
    | '[' :: rest => bracketPort address rest
    | _ =>
      match Text.cut ':' cs with
      | (host, some port) =>
        if port.contains ':' then .error (.tooManyColons address)
        else if (host ++ port).contains '[' then .error (.strayBracket '[' address)
        else if (host ++ port).contains ']' then .error (.strayBracket ']' address)
        else .ok port
      | (_, none) => .error (.missingPort address)

/-- The services that may be named instead of a number. -/
def services : List String :=
  ["domain", "ftp", "ftps", "gopher", "http", "https", "imap2", "imap3", "imaps", "pop3",
    "pop3s", "smtp", "submissions", "ssh", "telnet"]

/-- From here on a port number takes no more digits. -/
def portCutoff : UInt32 := 0x40000000

/-- The value a port number has once it is out of hand. -/
def portCeiling : UInt32 := 0xFFFFFFFF

/-- The word that digits spell, read onto `n`; `none` when another character
comes up. The word wraps around at 32 bits. Reading ends at a digit that finds
the word beyond the cutoff or makes it wrap, and what follows is not looked at. -/
def portNumber? (n : UInt32) : List Char → Option UInt32
  | [] => some n
  | c :: cs =>
    if c.isDigit then
      let shifted := n * 10
      let next := shifted + (Digits.digit c).toUInt32
      if portCutoff ≤ n || next < shifted then some portCeiling else portNumber? next cs
    else none

/-- What is wrong with a port. -/
def portFault? (port : List Char) : Option Fault :=
  let (negative, digits) := Decimal.takeSign port
  let name := String.ofList port
  match portNumber? 0 digits with
  | some n => if 65535 < n || (negative && n ≠ 0) then some (.invalidPort name) else none
  | none => if services.contains name then none else some (.unknownService name)

/-- What is wrong with an address. -/
def fault? (address : String) : Option Fault :=
  match portOf address with
  | .error f => some f
  | .ok port => portFault? port

end Listen
end PaymentGateway
