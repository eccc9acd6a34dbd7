/-
# IP addresses as text

An address of version 4 is four numbers up to 255 with dots between them. One
of version 6 is eight groups of hexadecimal digits with colons between them,
the last two of which may be written as an address of version 4; one run of
zero groups may be left out, marked `::`. A zone may follow after a percent
sign. The text is taken as bytes, since a zone may hold any.

Key definitions: `IpLiteral.version`, `IpLiteral.Fault.text`.
-/
import PaymentGateway.Text.Quoted

namespace PaymentGateway
namespace IpLiteral

/-- The two kinds of addresses. -/
inductive Version where
  | four | six
  deriving Repr, DecidableEq

/-- What is wrong with a text. -/
inductive Cause where
  | missingAddress
  | unreadable
  | emptyZone
  | longGroup
  | emptyGroup
  | misplacedQuad
  | noRoomForQuad
  | missingColon
  | danglingColon
  | secondEllipsis
  | trailing
  | tooShort
  | emptyEllipsis
  | leadingZero
  | largeNumber
  | emptyNumber
  | strayCharacter
  | quadTooLong
  | quadTooShort
  deriving Repr, DecidableEq

/-- How a cause is worded. -/
def Cause.text : Cause → String
  | missingAddress => "missing IPv6 address"
  | unreadable => "unable to parse IP"
  | emptyZone => "zone must be a non-empty string"
  | longGroup => "each group must have 4 or fewer digits"
  | emptyGroup => "each colon-separated field must have at least one digit"
  | misplacedQuad => "embedded IPv4 address must replace the final 2 fields of the address"
  | noRoomForQuad => "too many hex fields to fit an embedded IPv4 at the end of the address"
  | missingColon => "unexpected character, want colon"
  | danglingColon => "colon must be followed by more characters"
  | secondEllipsis => "multiple :: in address"
  | trailing => "trailing garbage after address"
  | tooShort => "address string too short"
  | emptyEllipsis => "the :: must expand to at least one field of zeros"
  | leadingZero => "IPv4 field has octet with leading zero"
  | largeNumber => "IPv4 field has value >255"
  | emptyNumber => "IPv4 field must have at least one digit"
  | strayCharacter => "unexpected character"
  | quadTooLong => "IPv4 address too long"
  | quadTooShort => "IPv4 address too short"

/-- A cause and the part of the text where it was found, empty when it is the
text as a whole. -/
structure Fault where
  cause : Cause
  place : List UInt8
  deriving Repr, DecidableEq

/-- How a fault of the text `whole` is worded. -/
def Fault.text [Unicode] (whole : List UInt8) (f : Fault) : String :=
  "ParseAddr(" ++ Text.quoteUtf8 whole ++ "): " ++ f.cause.text ++
    (if f.place.isEmpty then "" else " (at " ++ Text.quoteUtf8 f.place ++ ")")

/-- The byte `.`. -/
def dot : UInt8 := 0x2E

/-- The byte `:`. -/
def colon : UInt8 := 0x3A

/-- The byte `%`. -/
def percent : UInt8 := 0x25

/-- A byte that is a decimal digit. -/
def isDigit (b : UInt8) : Bool := (Char.ofNat b.toNat).isDigit

/-- A byte that is a hexadecimal digit. -/
def isHexDigit (b : UInt8) : Bool := (Text.Hex.value? (Char.ofNat b.toNat)).isSome

/-- Checks four numbers with dots between them, after `dots` dots and within a
number of so many `digits` and the value so far. -/
def checkQuad (dots value digits : Nat) : List UInt8 → Except Fault Unit
  | [] => if dots < 3 then .error ⟨.quadTooShort, []⟩ else .ok ()
  | b :: rest =>
    if isDigit b then
      if digits = 1 ∧ value = 0 then .error ⟨.leadingZero, []⟩
      else
        let value := 10 * value + (b.toNat - 48)
        if 255 < value then .error ⟨.largeNumber, []⟩ else checkQuad dots value (digits + 1) rest
    else if b = dot then
      if digits = 0 ∨ rest.isEmpty then .error ⟨.emptyNumber, b :: rest⟩
      else if dots = 3 then .error ⟨.quadTooLong, []⟩
      else checkQuad (dots + 1) 0 0 rest
    else .error ⟨.strayCharacter, b :: rest⟩

/-- Checks what is left when the groups are read: nothing may follow, and groups
are missing exactly if some were left out. -/
def checkEnd (missing : Nat) (ellipsis : Bool) (rest : List UInt8) : Except Fault Unit :=
  if !rest.isEmpty then .error ⟨.trailing, rest⟩
  else if missing = 0 ∧ ellipsis then .error ⟨.emptyEllipsis, []⟩
  else if missing ≠ 0 ∧ !ellipsis then .error ⟨.tooShort, []⟩
  else .ok ()

/-- Checks at most so many more groups; `ellipsis` says whether groups were left
out before. -/
def checkGroups : Nat → Bool → List UInt8 → Except Fault Unit
  | 0, ellipsis, s => checkEnd 0 ellipsis s
  | missing + 1, ellipsis, s =>
    let digits := s.takeWhile isHexDigit
    if 4 < digits.length then .error ⟨.longGroup, s⟩
    else if digits.isEmpty then .error ⟨.emptyGroup, s⟩
    else match s.dropWhile isHexDigit with
      | [] => checkEnd missing ellipsis []
      | b :: rest =>
        if b = dot then
          if !ellipsis ∧ missing ≠ 1 then .error ⟨.misplacedQuad, s⟩
          else if missing = 0 then .error ⟨.noRoomForQuad, s⟩
          else (checkQuad 0 0 0 s).bind fun _ => checkEnd (missing - 1) ellipsis []
        else if b ≠ colon then .error ⟨.missingColon, b :: rest⟩
        else match rest with
          | [] => .error ⟨.danglingColon, [b]⟩
          | c :: after =>
            if c ≠ colon then checkGroups missing ellipsis rest
            else if ellipsis then .error ⟨.secondEllipsis, rest⟩
            else if after.isEmpty then checkEnd missing true []
            else checkGroups missing true after

/-- Checks an address of version 6 without zone. -/
def checkSix (s : List UInt8) : Except Fault Unit :=
  if s.take 2 = [colon, colon] then
    if s.length = 2 then .ok () else checkGroups 8 true (s.drop 2)
  else checkGroups 8 false s

/-- Checks an address of version 6 with its zone, if it has one. -/
def checkZoned (s : List UInt8) : Except Fault Unit :=
  match s.dropWhile (· ≠ percent) with
  | [] => checkSix s
  | [_] => .error ⟨.emptyZone, []⟩
  | _ => checkSix (s.takeWhile (· ≠ percent))

/-- The version of the address that a text is. The first dot, colon or percent
sign decides what it is read as. -/
def version (s : List UInt8) : Except Fault Version :=
  match s.find? fun b => b = dot || b = colon || b = percent with
  | none => .error ⟨.unreadable, []⟩
  | some b =>
    if b = dot then (checkQuad 0 0 0 s).map fun _ => .four
    else if b = colon then (checkZoned s).map fun _ => .six
    else .error ⟨.missingAddress, []⟩

end IpLiteral
end PaymentGateway
