/-
# Shortest decimals

The shortest decimal that reads back as a given double, the nearest such
decimal, and on a tie the one with an even last digit; written positionally,
without an exponent, or as a JSON numeral. For each number of digits the two neighbours of the value
on that decimal grid are tested against the interval of numbers that round to
the double.

Key definitions: `Binary64.shortest`, `Binary64.positional`,
`Binary64.numeral`.
-/
import PaymentGateway.Number.Binary64

namespace PaymentGateway
namespace Binary64

/-- `c · 10 ^ p` as a ratio. -/
def decimalRatio (c : Nat) (p : Int) : Nat × Nat :=
  if 0 ≤ p then (c * Nat.pow 10 p.toNat, 1) else (c, Nat.pow 10 (-p).toNat)

/-- Whether `c · 10 ^ p` rounds to the double `m · 2 ^ e`: it lies within half
a step of it, the ends counting when `m` is even. -/
def readsBack (m : Nat) (e : Int) (c : Nat) (p : Int) : Bool :=
  let (num, den) := decimalRatio c p
  let (qn, qd) := ratio 1 (e - 2)
  let below := if m = Nat.pow 2 52 ∧ -1074 < e then 4 * m - 1 else 4 * m - 2
  let lo := below * qn * den
  let hi := (4 * m + 2) * qn * den
  let x := num * qd
  if m % 2 = 0 then lo ≤ x && x ≤ hi else lo < x && x < hi

/-- The largest `x`, among `start` and the `fuel` numbers after it, with
`10 ^ x ≤ n / d`. -/
def magnitudeFrom (n d : Nat) : Nat → Int → Int
  | 0, x => x
  | fuel + 1, x =>
    let (a, b) := decimalRatio 1 (x + 1)
    if a * d ≤ n * b then magnitudeFrom n d fuel (x + 1) else x

/-- The decimal exponent of `n / d`: `10 ^ x ≤ n / d < 10 ^ (x + 1)`. -/
def magnitude (n d : Nat) : Int :=
  let start : Int := ((n.log2 : Int) - d.log2 - 1) * 30103 / 100000 - 1
  magnitudeFrom n d 4 start

/-- The first number of digits, from `17 - fuel + 1` on, on whose grid a
neighbour of the value reads back. -/
def shortestFrom (m : Nat) (e : Int) (n d : Nat) (x : Int) : Nat → Nat × Int
  | 0 => (n / d, 0)
  | fuel + 1 =>
    let digits : Int := 17 - fuel
    let p := x - digits + 1
    let (a, b) := decimalRatio 1 p
    let below := n * b / (d * a)
    let above := below + 1
    let closer := roundDiv (n * b) (d * a)
    if readsBack m e closer p then (closer, p)
    else if readsBack m e below p then (below, p)
    else if readsBack m e above p then (above, p)
    else shortestFrom m e n d x fuel

/-- The shortest decimal `c · 10 ^ p` that reads back as `m · 2 ^ e`. -/
def shortest (m : Nat) (e : Int) : Nat × Int :=
  if m = 0 then (0, 0)
  else
    let (n, d) := ratio m e
    shortestFrom m e n d (magnitude n d) 17

/-- The number `c · 10 ^ p` without an exponent and without zeros at the end
of its fraction. -/
def writePositional (c : Nat) (p : Int) : List Char :=
  if 0 ≤ p then Digits.ofNat (c * Nat.pow 10 p.toNat)
  else
    let places := (-p).toNat
    let fraction := Digits.padded places (c % Nat.pow 10 places)
    let kept := (fraction.reverse.dropWhile (· == '0')).reverse
    Digits.ofNat (c / Nat.pow 10 places) ++ (if kept.isEmpty then [] else '.' :: kept)

/-- A double as the shortest positional decimal that reads back. -/
def positional : Binary64 → String
  | nan => "NaN"
  | infinite false => "+Inf"
  | infinite true => "-Inf"
  | finite negative m e =>
    let (c, p) := shortest m e
    let digits := writePositional c p
    String.ofList (if negative then '-' :: digits else digits)

/-- The number `c · 10 ^ p` with one digit before the point and an exponent. -/
def writeScientific (c : Nat) (p : Int) : List Char :=
  let digits := ((Digits.ofNat c).reverse.dropWhile (· == '0')).reverse
  let exponent : Int := (Digits.ofNat c).length - 1 + p
  digits.take 1 ++ (if digits.length ≤ 1 then [] else '.' :: digits.drop 1) ++
    'e' :: (if exponent < 0 then '-' else '+') :: Digits.ofNat exponent.natAbs

/-- The magnitude `m · 2 ^ e` as a JSON numeral: positional from 10⁻⁶ on and
below 10²¹, with an exponent otherwise. -/
def numeral (m : Nat) (e : Int) : List Char :=
  let (c, p) := shortest m e
  let exponent : Int := (Digits.ofNat c).length - 1 + p
  if c = 0 ∨ (-6 ≤ exponent ∧ exponent < 21) then writePositional c p else writeScientific c p

end Binary64
end PaymentGateway
