/-
# Addresses

An address is cut from the outside in: the fragment after the first `#`, the
scheme before a colon, the query after the first `?`, the authority between
`//` and the next slash, and in it the user information up to the last `@`.
What is left is host and path. A host may escape only bytes outside ASCII (and
the percent sign), a port is made of digits, and a host in brackets is an IP
address of version 6. Path and fragment keep their spelling; host and user
information have their escapes undone, so they are bytes.

Writing an address escapes what has to be escaped. A path or fragment is
written as it was spelled, unless it holds a character that must not stand
there; then it is spelled anew.

Key definitions: `Address`, `Address.parse`, `Address.parseTarget?`,
`Address.ofPath`, `Address.render`, `Address.Fault.text`.
-/
import PaymentGateway.Text.Blank
import PaymentGateway.Url.IpLiteral
import PaymentGateway.Url.Percent

namespace PaymentGateway

/-- Who asks: a name and, if one is given, a password. -/
structure UserInfo where
  name : List UInt8
  password : Option (List UInt8)
  deriving Repr, DecidableEq

/-- The parts of an address: a scheme in lower case ("" for none), what follows
a scheme without a slash, whether a scheme is followed by a path at once, user
information, host with port, path, query and fragment. -/
structure Address where
  scheme : String
  rootless : List Char
  hostless : Bool
  user : Option UserInfo
  hostBytes : List UInt8
  spelledPath : List Char
  query : Option (List Char)
  spelledFragment : List Char
  deriving Repr, DecidableEq

namespace Address

/-- An address that says nothing. -/
def blank : Address := ⟨"", [], false, none, [], [], none, []⟩

/-- The host with its port, as a text. -/
def host (a : Address) : String := Text.Utf8.text a.hostBytes

/-- The bytes of the path, its escapes undone. -/
def pathBytes (a : Address) : List UInt8 := (Percent.bytes? a.spelledPath).getD []

/-- The path, its escapes undone. -/
def path (a : Address) : String := Text.Utf8.text a.pathBytes

/-- Why a text is no address. -/
inductive Fault where
  | control
  | missingScheme
  | colonInPath
  | missingBracket
  | badPort (port : String)
  | badUser
  | badEscape (escape : List UInt8)
  | badHostChar (c : Char)
  | badIp (literal : List UInt8) (fault : IpLiteral.Fault)
  | badBrackets
  deriving Repr, DecidableEq

/-- How a fault is worded. -/
def Fault.text [Unicode] : Fault → String
  | control => "net/url: invalid control character in URL"
  | missingScheme => "missing protocol scheme"
  | colonInPath => "first path segment in URL cannot contain colon"
  | missingBracket => "missing ']' in host"
  | badPort port => "invalid port " ++ Text.quote port ++ " after host"
  | badUser => "net/url: invalid userinfo"
  | badEscape escape => "invalid URL escape " ++ Text.quoteUtf8 escape
  | badHostChar c => "invalid character " ++ Text.quote (String.singleton c) ++ " in host name"
  | badIp literal f => "invalid host: " ++ f.text literal
  | badBrackets => "invalid IP-literal"

/-- A control character of ASCII. -/
def isControl (c : Char) : Bool := c.toNat < 0x20 || c.toNat = 0x7F

/-- A character of a scheme. -/
def isSchemeChar (c : Char) : Bool := Percent.isAlphanumeric c || c = '+' || c = '-' || c = '.'

/-- The scheme and what follows it. A text that does not start with a letter,
or has no colon after the scheme's characters, has none. -/
def takeScheme (cs : List Char) : Except Fault (List Char × List Char) :=
  match cs.takeWhile isSchemeChar, cs.dropWhile isSchemeChar with
  | [], ':' :: _ => .error .missingScheme
  | c :: name, ':' :: rest =>
    if c.isAlpha then .ok ((c :: name).map Char.toLower, rest) else .ok ([], cs)
  | _, _ => .ok ([], cs)

/-- The escape that starts a text, cut to three bytes. -/
def escapeAt (cs : List Char) : List UInt8 := (Text.Utf8.encode (cs.take 3)).take 3

/-- The first faulty escape of a text. -/
def badEscape? : List Char → Option (List UInt8)
  | [] => none
  | '%' :: a :: b :: rest =>
    if (Percent.byte? a b).isSome then badEscape? rest else some (escapeAt ('%' :: a :: b :: rest))
  | c :: rest => if c = '%' then some (escapeAt (c :: rest)) else badEscape? rest

/-- Undoes the escapes of a text. -/
def unescape (cs : List Char) : Except Fault (List UInt8) :=
  match Percent.bytes? cs with
  | some bs => .ok bs
  | none => .error (.badEscape ((badEscape? cs).getD []))

/-- A character of ASCII that may stand in a host as it is. -/
def isPlainHostChar (c : Char) : Bool :=
  Percent.isUnreserved c || "!$&'()*+,;=:[]<>\"".toList.contains c

/-- A character that may stand in a host as it is. All characters outside ASCII
may. -/
def isHostChar (c : Char) : Bool := isPlainHostChar c || 0x80 ≤ c.toNat

/-- The escapes that may stand in a host: bytes outside ASCII and the percent
sign. -/
def isHostEscape (b : UInt8) : Bool := 0x80 ≤ b.toNat || b.toNat = 0x25

/-- The escapes that may stand in the zone of a host: what could stand there
unescaped, the percent sign and the space. -/
def isZoneEscape (b : UInt8) : Bool :=
  b.toNat = 0x25 || b.toNat = 0x20 || (b.toNat < 0x80 && isPlainHostChar (Char.ofNat b.toNat))

/-- The first fault of a host or zone, given the escapes it may have. -/
def hostFault? (allowed : UInt8 → Bool) : List Char → Option Fault
  | [] => none
  | '%' :: a :: b :: rest =>
    match Percent.byte? a b with
    | some x =>
      if allowed x then hostFault? allowed rest
      else some (.badEscape (escapeAt ('%' :: a :: b :: rest)))
    | none => some (.badEscape (escapeAt ('%' :: a :: b :: rest)))
  | c :: rest =>
    if c = '%' then some (.badEscape (escapeAt (c :: rest)))
    else if isHostChar c then hostFault? allowed rest
    else some (.badHostChar c)

/-- Undoes the escapes of a host or zone. -/
def unescapeHost (allowed : UInt8 → Bool) (cs : List Char) : Except Fault (List UInt8) :=
  match hostFault? allowed cs with
  | some f => .error f
  | none => .ok ((Percent.bytes? cs).getD [])

/-- Whether a text is a colon and digits, or nothing. -/
def isPort : List Char → Bool
  | [] => true
  | c :: cs => c = ':' && cs.all Char.isDigit

/-- The text before the last `c` and the text after it, if there is one. -/
def cutLast (c : Char) (cs : List Char) : Option (List Char × List Char) :=
  match Text.cut c cs.reverse with
  | (after, some before) => some (before.reverse, after.reverse)
  | (_, none) => none

/-- The text before the first `%25` and the text from there on, if there is
one. -/
def cutZone : List Char → Option (List Char × List Char)
  | [] => none
  | c :: cs =>
    if (c :: cs).take 3 = ['%', '2', '5'] then some ([], c :: cs)
    else (cutZone cs).map fun (before, zone) => (c :: before, zone)

/-- What stands in brackets, with its escapes undone; `%25` starts a zone. -/
def insideBrackets (cs : List Char) : Except Fault (List UInt8) :=
  match cutZone cs with
  | some (name, zone) => do
    let a ← unescapeHost isHostEscape name
    let b ← unescapeHost isZoneEscape zone
    return a ++ b
  | none => unescapeHost isHostEscape cs

/-- A host in brackets, after the first one: its port stands after the last
bracket, and what is in between is an address of version 6. -/
def bracketHost (cs : List Char) : Except Fault (List UInt8) :=
  match cutLast ']' cs with
  | none => .error .missingBracket
  | some (inside, port) =>
    if !isPort port then .error (.badPort (String.ofList port))
    else do
      let literal ← insideBrackets inside
      match IpLiteral.version literal with
      | .error f => .error (.badIp literal f)
      | .ok .four => .error .badBrackets
      | .ok .six => .ok (Text.Utf8.encode ['['] ++ literal ++ Text.Utf8.encode (']' :: port))

/-- The host of an authority without user information. Of several colons the
last one starts the port. -/
def readHost (cs : List Char) : Except Fault (List UInt8) :=
  if cs.tail.contains '[' then .error .badBrackets
  else match cs with
    | '[' :: rest => bracketHost rest
    | _ =>
      match cutLast ':' cs with
      | some (_, port) =>
        if isPort (':' :: port) then unescapeHost isHostEscape cs
        else .error (.badPort (String.ofList (':' :: port)))
      | none => unescapeHost isHostEscape cs

/-- A character of user information. -/
def isUserChar (c : Char) : Bool :=
  Percent.isAlphanumeric c || "-._:~!$&'()*+,;=%@".toList.contains c

/-- Reads user information; a colon starts the password. -/
def readUser (cs : List Char) : Except Fault UserInfo := do
  if !cs.all isUserChar then .error .badUser
  else match Text.cut ':' cs with
    | (name, none) => return ⟨← unescape name, none⟩
    | (name, some password) => return ⟨← unescape name, some (← unescape password)⟩

/-- User information and host of an authority. A fault of the host comes before
one of the user information. -/
def authority (cs : List Char) : Except Fault (Option UserInfo × List UInt8) :=
  match cutLast '@' cs with
  | none => (readHost cs).map fun h => (none, h)
  | some (user, rest) => do
    let h ← readHost rest
    return (some (← readUser user), h)

/-- The address with a path, whose escapes are checked. -/
def withPath (a : Address) (path : List Char) : Except Fault Address :=
  (unescape path).map fun _ => { a with spelledPath := path }

/-- Adds authority and path: what follows the scheme, its query cut off. A
request target without a scheme has no authority. -/
def hierarchy (isTarget : Bool) (a : Address) (rest : List Char) : Except Fault Address :=
  match rest with
  | '/' :: '/' :: more =>
    if a.scheme = "" && (isTarget || more.head? = some '/') then a.withPath rest
    else do
      let (user, h) ← authority (more.takeWhile (· ≠ '/'))
      { a with user, hostBytes := h }.withPath (more.dropWhile (· ≠ '/'))
  | '/' :: _ => { a with hostless := a.scheme ≠ "" }.withPath rest
  | _ =>
    if a.scheme ≠ "" then .ok { a with rootless := rest }
    else if (rest.takeWhile (· ≠ '/')).contains ':' then .error .colonInPath
    else a.withPath rest

/-- The parts of an address without a fragment. -/
def parseBody (isTarget : Bool) (body : List Char) : Except Fault Address := do
  if body.any isControl then .error .control
  else if body = ['*'] then return { blank with spelledPath := body }
  else
    let (scheme, rest) ← takeScheme body
    let (rest, query) := Text.cut '?' rest
    hierarchy isTarget { blank with scheme := String.ofList scheme, query } rest

/-- The parts of an address. -/
def parse (s : String) : Except Fault Address := do
  let (body, fragment) := Text.cut '#' s.toList
  let a ← parseBody false body
  discard (unescape (fragment.getD []))
  return { a with spelledFragment := fragment.getD [] }

/-- How a text is said to be no address: by what was read of it when the fault
was found, which leaves the fragment out unless the fault is there. -/
def complaint [Unicode] (s : String) (f : Fault) : String :=
  let body := (Text.cut '#' s.toList).1
  let shown := if (parseBody false body).isOk then s else String.ofList body
  "parse " ++ Text.quote shown ++ ": " ++ f.text

/-- The parts of a request's target: an absolute path or a full address, neither
of which has a fragment. -/
def parseTarget? (s : String) : Option Address :=
  match parseBody true s.toList with
  | .ok a => if a.scheme = "" && a.spelledPath.head? ≠ some '/' then none else some a
  | .error _ => none

/-- A character of a path that needs no escape. -/
def isPathChar (c : Char) : Bool :=
  Percent.isUnreserved c || "$&+,/:;=@".toList.contains c

/-- A character of a fragment that needs no escape. -/
def isFragmentChar (c : Char) : Bool :=
  Percent.isUnreserved c || "$&+,/:;=?@!()*".toList.contains c

/-- A character of user information that needs no escape. -/
def isPlainUserChar (c : Char) : Bool :=
  Percent.isUnreserved c || "$&+,;=".toList.contains c

/-- Whether every character may stand where `isPlain` characters do, as itself or
in an escape. -/
def isSpelledWell (isPlain : Char → Bool) (cs : List Char) : Bool :=
  cs.all fun c => isPlain c || "!$&'()*+,;=:@[]%".toList.contains c

/-- A spelling as it is, or spelled anew when a character must not stand there. -/
def respelled (isPlain : Char → Bool) (cs : List Char) : List Char :=
  if isSpelledWell isPlain cs then cs
  else Percent.escapeBut isPlain ((Percent.bytes? cs).getD [])

/-- A path spelled in escapes, but for the characters that need none. -/
def escapePath (path : List Char) : List Char :=
  Percent.escapeBut isPathChar (Text.Utf8.encode path)

/-- The address of a path with a query and nothing else. -/
def ofPath (path : List Char) (query : Option (List Char)) : Address :=
  { blank with spelledPath := escapePath path, query }

/-- User information in writing. -/
def renderUser (u : UserInfo) : List Char :=
  Percent.escapeBut isPlainUserChar u.name ++
    match u.password with
    | none => []
    | some p => ':' :: Percent.escapeBut isPlainUserChar p

/-- The authority in writing, given how user information is written. -/
def renderAuthority (user : UserInfo → List Char) (a : Address) : List Char :=
  if (a.scheme = "" && a.hostBytes.isEmpty && a.user.isNone) ||
      (a.hostBytes.isEmpty && a.user.isNone && (a.hostless || a.spelledPath.isEmpty)) then []
  else
    ['/', '/'] ++
      (match a.user with
        | some u => user u ++ ['@']
        | none => []) ++
      Percent.escapeBut isPlainHostChar a.hostBytes

/-- The path in writing. One that could be taken for a scheme, with nothing in
front of it, is marked as a path. -/
def renderPath (isFirst : Bool) (a : Address) : List Char :=
  let path := respelled isPathChar a.spelledPath
  if isFirst && (path.takeWhile (· ≠ '/')).contains ':' then '.' :: '/' :: path else path

/-- An address in writing, given how user information is written. -/
def write (user : UserInfo → List Char) (a : Address) : String :=
  let scheme := if a.scheme = "" then [] else a.scheme.toList ++ [':']
  let body :=
    if !a.rootless.isEmpty then a.rootless
    else
      let authority := renderAuthority user a
      authority ++ renderPath (scheme.isEmpty && authority.isEmpty) a
  let query := match a.query with
    | none => []
    | some q => '?' :: q
  let fragment :=
    if a.spelledFragment.isEmpty then []
    else '#' :: respelled isFragmentChar a.spelledFragment
  String.ofList (scheme ++ body ++ query ++ fragment)

/-- An address in writing. -/
def render (a : Address) : String := write renderUser a

/-- An address in writing, fit to be shown: a password is not spelled out, and
then the name is not escaped. -/
def renderSafely (a : Address) : String :=
  write (fun u =>
    match u.password with
    | none => renderUser u
    | some _ => Text.Utf8.decode u.name ++ [':', '*', '*', '*']) a

/-- The address without the colon of an empty port. -/
def withoutEmptyPort (a : Address) : Address :=
  match a.hostBytes.reverse with
  | b :: rest => if b = IpLiteral.colon then { a with hostBytes := rest.reverse } else a
  | [] => a

end Address
end PaymentGateway
