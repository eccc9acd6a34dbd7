/-
# Decimal numbers

A decimal is `± digits · 10 ^ exponent`. It is read from a numeral: an
optional sign, digits, a fraction and an exponent. The value of a long digit
string is computed by halves, so that a megabyte of digits stays cheap;
`Digits.value` is nevertheless the plain base-ten value.

Key definitions: `Digits.value`, `Decimal`, `Decimal.read`.
-/
namespace PaymentGateway

namespace Digits

/-- The value of one digit. -/
def digit (c : Char) : Nat := c.toNat - 48

/-- The base-ten value of a digit string, one digit at a time. -/
def naive (ds : List Char) : Nat := ds.foldl (fun n c => 10 * n + digit c) 0

/-- The base-ten value of a digit string; long strings by halves. -/
def value (ds : List Char) : Nat :=
  if _h : ds.length ≤ 256 then naive ds
  else
    value (ds.take (ds.length / 2)) * Nat.pow 10 (ds.length - ds.length / 2) +
      value (ds.drop (ds.length / 2))
termination_by ds.length
decreasing_by all_goals (simp only [List.length_take, List.length_drop]; omega)

/-- The decimal digits of a natural number. -/
def ofNat (n : Nat) : List Char := Nat.toDigits 10 n

/-- The decimal digits of `n`, with zeros in front up to `width` digits. -/
def padded (width n : Nat) : List Char :=
  List.replicate (width - (ofNat n).length) '0' ++ ofNat n

/-- The decimal text of an integer. -/
def ofInt (i : Int) : List Char :=
  if i < 0 then '-' :: ofNat i.natAbs else ofNat i.natAbs

/-- The decimal text of an integer. -/
def text (i : Int) : String := String.ofList (ofInt i)

end Digits

/-- The number `± digits · 10 ^ exponent`. -/
structure Decimal where
  negative : Bool
  digits : Nat
  exponent : Int
  deriving Repr, DecidableEq

namespace Decimal

/-- A leading sign and what follows it. -/
def takeSign : List Char → Bool × List Char
  | '-' :: cs => (true, cs)
  | '+' :: cs => (false, cs)
  | cs => (false, cs)

/-- The value of an exponent's digits. Beyond ten thousand further digits make
no difference. -/
def exponentValue (ds : List Char) : Nat :=
  ds.foldl (fun n c => if n < 10000 then 10 * n + Digits.digit c else n) 0

/-- The exponent that follows the digits of a numeral, 0 when there is none. -/
def readExponent : List Char → Int
  | c :: cs =>
    if c = 'e' ∨ c = 'E' then
      let (negative, ds) := takeSign cs
      let n := exponentValue (ds.takeWhile Char.isDigit)
      if negative then -(n : Int) else n
    else 0
  | [] => 0

/-- The digits after a point, and what follows them. -/
def takeFraction : List Char → List Char × List Char
  | '.' :: cs => (cs.takeWhile Char.isDigit, cs.dropWhile Char.isDigit)
  | cs => ([], cs)

/-- The number a numeral spells: sign, digits, fraction, exponent. -/
def read (numeral : List Char) : Decimal :=
  let (negative, body) := takeSign numeral
  let whole := body.takeWhile Char.isDigit
  let (fraction, rest) := takeFraction (body.dropWhile Char.isDigit)
  { negative
    digits := Digits.value (whole ++ fraction)
    exponent := readExponent rest - fraction.length }

end Decimal
end PaymentGateway
