/-
# Double-precision numbers

A finite double is `± significand · 2 ^ exponent`, read as exactly that
dyadic number, so that statements about amounts are statements of arithmetic.
A ratio of natural numbers is rounded to the nearest double, ties to the even
significand, with 53 bits of precision down to the least exponent -1074.

Key definitions: `Binary64`, `Binary64.nearest`, `Binary64.ofDecimal`,
`Binary64.roundHalfUp`.
-/
import PaymentGateway.Number.Decimal

namespace PaymentGateway

/-- The quotient `n / d` rounded to a natural number, a half to the even one. -/
def roundDiv (n d : Nat) : Nat :=
  let q := n / d
  let r := n % d
  if 2 * r < d then q else if d < 2 * r then q + 1 else q + q % 2

/-- A double: not a number, an infinity, or `± significand · 2 ^ exponent`. -/
inductive Binary64 where
  | nan
  | infinite (negative : Bool)
  | finite (negative : Bool) (significand : Nat) (exponent : Int)
  deriving Repr, DecidableEq

namespace Binary64

/-- `n / d · 2 ^ (-e)` as a ratio of natural numbers. -/
def scaled (n d : Nat) (e : Int) : Nat × Nat :=
  if 0 ≤ e then (n, d * Nat.pow 2 e.toNat) else (n * Nat.pow 2 (-e).toNat, d)

/-- The exponent at which `n / d` has 53 binary digits before the point, but
at least -1074. -/
def exponentFor (n d : Nat) : Int :=
  let guess : Int := (n.log2 : Int) - d.log2 - 53
  let (a, b) := scaled n d guess
  max (if Nat.pow 2 53 * b ≤ a then guess + 1 else guess) (-1074)

/-- The significand and exponent nearest to `n / d`, with no bound on the
exponent from above. -/
def nearest (n d : Nat) : Nat × Int :=
  if n = 0 then (0, 0)
  else
    let e := exponentFor n d
    let (a, b) := scaled n d e
    let m := roundDiv a b
    if m = Nat.pow 2 53 then (Nat.pow 2 52, e + 1) else (m, e)

/-- The ratio a significand and an exponent stand for. -/
def ratio (m : Nat) (e : Int) : Nat × Nat :=
  if 0 ≤ e then (m * Nat.pow 2 e.toNat, 1) else (m, Nat.pow 2 (-e).toNat)

/-- The product of two finite magnitudes, rounded. -/
def times (x y : Nat × Int) : Nat × Int :=
  let (a, b) := ratio x.1 x.2
  let (c, d) := ratio y.1 y.2
  nearest (a * c) (b * d)

/-- The quotient of two finite magnitudes, rounded. -/
def divide (x y : Nat × Int) : Nat × Int :=
  let (a, b) := ratio x.1 x.2
  let (c, d) := ratio y.1 y.2
  nearest (a * d) (b * c)

/-- The whole part of a finite magnitude. -/
def truncate (x : Nat × Int) : Nat :=
  let (a, b) := ratio x.1 x.2
  a / b

/-- The double nearest to `± n / d`; `none` when that is beyond the largest. -/
def ofRatio (negative : Bool) (n d : Nat) : Option Binary64 :=
  let (m, e) := nearest n d
  if 971 < e then none else some (.finite negative m e)

/-- The double nearest to a decimal; `none` when that is beyond the largest.
An exponent out of all proportion is settled without computing the power. -/
def ofDecimal (d : Decimal) : Option Binary64 :=
  if d.digits = 0 then some (.finite d.negative 0 0)
  else if 400 < d.exponent then none
  else if d.exponent + d.digits.log2 + 400 < 0 then some (.finite d.negative 0 0)
  else if 0 ≤ d.exponent then ofRatio d.negative (d.digits * Nat.pow 10 d.exponent.toNat) 1
  else ofRatio d.negative d.digits (Nat.pow 10 (-d.exponent).toNat)

/-- The double a numeral spells. -/
def read (numeral : List Char) : Option Binary64 := ofDecimal (Decimal.read numeral)

/-- Zero of either sign. -/
def isZero : Binary64 → Bool
  | finite _ 0 _ => true
  | _ => false

/-- Whether a double is greater than zero; not a number is not. -/
def isPositive : Binary64 → Bool
  | finite false m _ => m != 0
  | infinite false => true
  | _ => false

/-- `⌊m · 2 ^ e + 1/2⌋`: the nearest natural number, a half upwards. -/
def roundHalfUp (m : Nat) (e : Int) : Nat :=
  if 0 ≤ e then m * Nat.pow 2 e.toNat
  else (2 * m + Nat.pow 2 (-e).toNat) / (2 * Nat.pow 2 (-e).toNat)

end Binary64
end PaymentGateway
