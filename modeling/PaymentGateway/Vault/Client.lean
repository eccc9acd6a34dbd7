/-
# Settings of the vault's client

The client that talks to the vault has settings of its own in the environment,
each under two names. A name of the first kind counts as soon as it is present;
only then, if its value is empty, is the setting left alone. A setting that
cannot be read makes the client unusable, and so does every certificate or key
that is named, because none can be loaded.

Key definitions: `Vault.Client.setting`, `Vault.Client.isTimeout`,
`Vault.Client.isRate`, `Vault.Client.settingsValid`, `Vault.Client.address`.
-/
import PaymentGateway.Environment
import PaymentGateway.Number.Floating
import PaymentGateway.Settings
import PaymentGateway.Url.Address

namespace PaymentGateway
namespace Vault
namespace Client

/-- A setting under either of its two names, "" when it is not set. -/
def setting (e : Environment) (name : String) : String :=
  match e.lookup ("BAO_" ++ name) with
  | some v => v
  | none => e.get ("VAULT_" ++ name)

/-- Whether a number of retries is well formed. -/
def isRetries (v : String) : Bool := (Integer.readSigned v).isOk

/-- Whether a switch is well formed. -/
def isSwitch (v : String) : Bool := (Settings.readFlag? v).isSome

/-- Whether a time limit is well formed: whole seconds, whole days marked `d`,
or a duration. -/
def isTimeout (v : String) : Bool :=
  (Integer.readSigned v).isOk ||
    (match v.toList.reverse with
      | 'd' :: days => (Integer.readSigned (String.ofList days.reverse)).isOk
      | _ => (Duration.read v).isOk)

/-- Takes a character if it belongs to a class. -/
def accept (isOne : Char → Bool) : List Char → List Char × List Char
  | [] => ([], [])
  | c :: cs => if isOne c then ([c], cs) else ([], c :: cs)

/-- The blanks that may stand before a number: all but the newline. -/
def skipBlanks (cs : List Char) : List Char := cs.dropWhile fun c => Text.isBlank c && c ≠ '\n'

/-- The digits of a number, with underscores. -/
def takeDigits (isDigit : Char → Bool) (cs : List Char) : List Char × List Char :=
  (cs.takeWhile fun c => isDigit c || c = '_', cs.dropWhile fun c => isDigit c || c = '_')

/-- A number with a point and an exponent at the start of a text, as far as its
characters go, and what follows. -/
def takeReal (cs : List Char) : List Char × List Char :=
  let (sign, cs) := accept (fun c => c = '+' || c = '-') cs
  let (zero, afterZero) := accept (· = '0') cs
  let (mark, afterMark) := if zero.isEmpty then ([], cs) else accept (fun c => c.toLower = 'x') afterZero
  let isDigit := if mark.isEmpty then Char.isDigit else Floating.isHexDigit
  let (whole, cs) := takeDigits isDigit (if mark.isEmpty then cs else afterMark)
  let (point, cs) := accept (· = '.') cs
  let (fraction, cs) := if point.isEmpty then ([], cs) else takeDigits isDigit cs
  let (power, cs) := accept (fun c => c.toLower = 'p' || (mark.isEmpty && c.toLower = 'e')) cs
  let (powerSign, cs) :=
    if power.isEmpty then ([], cs) else accept (fun c => c = '+' || c = '-') cs
  let (exponent, cs) := if power.isEmpty then ([], cs) else takeDigits Char.isDigit cs
  (sign ++ (if mark.isEmpty then [] else zero ++ mark) ++ whole ++ point ++ fraction ++ power ++
    powerSign ++ exponent, cs)

/-- Whether a number is well formed. A decimal one may have an exponent of two,
marked `p`. -/
def isReal (cs : List Char) : Bool :=
  match Text.cut 'p' cs with
  | (before, some after) =>
    if cs.any fun c => c.toLower = 'x' then Floating.isLiteral cs
    else Floating.isLiteral before && (Integer.readSigned (String.ofList after)).isOk
  | (_, none) => Floating.isLiteral cs

/-- What a number at the start of a text is spelled as, and what follows. -/
def takeNumber (cs : List Char) : List Char × List Char :=
  let word := fun n => String.ofList ((cs.take n).map Char.toLower)
  if word 3 = "nan" || word 3 = "inf" then (cs.take 3, cs.drop 3)
  else if word 4 = "+inf" || word 4 = "-inf" then (cs.take 4, cs.drop 4)
  else takeReal cs

/-- Whether an integer stands at the start of a text. -/
def startsWithInteger (cs : List Char) : Bool :=
  let (sign, cs) := accept (fun c => c = '+' || c = '-') cs
  (Integer.readSigned (String.ofList (sign ++ cs.takeWhile Char.isDigit))).isOk

/-- Whether a rate is well formed: a number, a colon and an integer, whatever
follows; or a number alone. -/
def isRate (v : String) : Bool :=
  (match takeNumber (skipBlanks v.toList) with
    | (rate, ':' :: burst) => isReal rate && startsWithInteger (skipBlanks burst)
    | _ => false) ||
  Floating.isLiteral v.toList

/-- The settings that have a form of their own. -/
def forms : List (String × (String → Bool)) :=
  [("MAX_RETRIES", isRetries), ("CLIENT_TIMEOUT", isTimeout), ("RATE_LIMIT", isRate),
    ("SKIP_VERIFY", isSwitch), ("SRV_LOOKUP", isSwitch), ("DISABLE_REDIRECTS", isSwitch)]

/-- The settings that name certificates and keys. -/
def certificates : List String :=
  ["CACERT", "CACERT_BYTES", "CAPATH", "CLIENT_CERT", "CLIENT_KEY"]

/-- The proxy the client is told to use, "" for none. -/
def proxy (e : Environment) : String :=
  if setting e "PROXY_ADDR" = "" then setting e "HTTP_PROXY" else setting e "PROXY_ADDR"

/-- Whether the client's settings can be used. -/
def settingsValid (e : Environment) : Bool :=
  forms.all (fun (name, isGood) => setting e name = "" || isGood (setting e name)) &&
    certificates.all (fun name => setting e name = "") &&
    (proxy e = "" || (Address.parse (proxy e)).isOk)

/-- The address that the client talks to: an agent, if one is set, in place of
the store. -/
def address (e : Environment) (store : String) : String :=
  if setting e "AGENT_ADDR" = "" then store else setting e "AGENT_ADDR"

end Client
end Vault
end PaymentGateway
