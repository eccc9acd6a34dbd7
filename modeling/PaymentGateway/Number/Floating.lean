/-
# Floating-point literals

Which texts spell a double. A literal is an infinity, `nan`, or a sign, digits
with at most one point, and an exponent; after `0x` the digits are hexadecimal
and an exponent, of two, has to follow. An underscore may stand between digits,
and between the `0x` and a digit. What is larger than every double is refused.

Key definitions: `Floating.magnitude?`, `Floating.isLiteral`.
-/
import PaymentGateway.Number.Binary64
import PaymentGateway.Text.Hex

namespace PaymentGateway
namespace Floating

/-- The characters before a mark, which starts the exponent, with at most one
point among them; and what follows. -/
def takeMantissa (isDigit : Char → Bool) (pointAllowed : Bool) : List Char → List Char × List Char
  | [] => ([], [])
  | c :: cs =>
    if c = '.' && pointAllowed then
      let (m, rest) := takeMantissa isDigit false cs
      (c :: m, rest)
    else if isDigit c || c = '_' then
      let (m, rest) := takeMantissa isDigit pointAllowed cs
      (c :: m, rest)
    else ([], c :: cs)

/-- The exponent after its mark: a sign and digits, of which the first is no
underscore. -/
def exponent? (cs : List Char) : Option Int :=
  let (negative, ds) := Decimal.takeSign cs
  match ds with
  | [] => none
  | d :: _ =>
    if d.isDigit && ds.all (fun c => c.isDigit || c = '_') then
      let n : Int := Decimal.exponentValue (ds.filter Char.isDigit)
      some (if negative then -n else n)
    else none

/-- Whether underscores stand between digits only. `afterDigit` says whether a
digit came last, `afterUnderscore` whether an underscore did. -/
def underscoresFit (isDigit : Char → Bool) (afterDigit afterUnderscore : Bool) : List Char → Bool
  | [] => !afterUnderscore
  | c :: cs =>
    if isDigit c then underscoresFit isDigit true false cs
    else if c = '_' then afterDigit && underscoresFit isDigit false true cs
    else !afterUnderscore && underscoresFit isDigit false false cs

/-- The value of hexadecimal digits. -/
def hexValue (ds : List Char) : Nat :=
  ds.foldl (fun n c => 16 * n + (Text.Hex.value? c).getD 0) 0

/-- Digits before and after the point. -/
def splitPoint (mantissa : List Char) : List Char × List Char :=
  (mantissa.takeWhile (· ≠ '.'), (mantissa.dropWhile (· ≠ '.')).drop 1)

/-- The double of a decimal literal without sign. -/
def decimal? (cs : List Char) : Option Binary64 := do
  let (m, rest) := takeMantissa Char.isDigit true cs
  let (whole, fraction) := splitPoint (m.filter (· ≠ '_'))
  if whole.isEmpty && fraction.isEmpty then none
  else
    let e ← match rest with
      | [] => some 0
      | mark :: more => if mark.toLower = 'e' then exponent? more else none
    if underscoresFit Char.isDigit false false cs then
      Binary64.ofDecimal ⟨false, Digits.value (whole ++ fraction), e - fraction.length⟩
    else none

/-- A hexadecimal digit. -/
def isHexDigit (c : Char) : Bool := (Text.Hex.value? c).isSome

/-- The double of a hexadecimal literal without sign, after its `0x`. -/
def hexadecimal? (cs : List Char) : Option Binary64 := do
  let (m, rest) := takeMantissa isHexDigit true cs
  let (whole, fraction) := splitPoint (m.filter (· ≠ '_'))
  if whole.isEmpty && fraction.isEmpty then none
  else
    let e ← match rest with
      | [] => none
      | mark :: more => if mark.toLower = 'p' then exponent? more else none
    if underscoresFit isHexDigit true false cs then
      let (n, d) := Binary64.ratio (hexValue (whole ++ fraction)) (e - 4 * fraction.length)
      Binary64.ofRatio false n d
    else none

/-- The double of a literal without sign, if it is a finite one. -/
def magnitude? : List Char → Option Binary64
  | '0' :: x :: c :: cs => if x.toLower = 'x' then hexadecimal? (c :: cs) else decimal? ('0' :: x :: c :: cs)
  | cs => decimal? cs

/-- Whether a text spells a double. -/
def isLiteral (cs : List Char) : Bool :=
  let unsigned := (Decimal.takeSign cs).2
  ["inf", "infinity"].contains (String.ofList (unsigned.map Char.toLower)) ||
    String.ofList (cs.map Char.toLower) = "nan" ||
    (magnitude? unsigned).isSome

end Floating
end PaymentGateway
