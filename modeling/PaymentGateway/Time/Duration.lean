/-
# Durations

A duration is a number of nanoseconds in 64 bits with sign. Its text is a
sequence of numbers with units, such as `1h30m` or `1.5s`. A fraction is scaled
by its unit in double precision and cut to whole nanoseconds, so that it may be
a nanosecond off; that is part of the format. So is that the numbers are added
in 64 bits without sign: the largest magnitude, taken twice, is nothing.

Key definitions: `Duration.read`, `Duration.Fault.text`, `Duration.text`.
-/
import PaymentGateway.Number.Binary64
import PaymentGateway.Text.Quoted

namespace PaymentGateway
namespace Duration

/-- Why a text is no duration. -/
inductive Fault where
  | invalid
  | missingUnit
  | unknownUnit (unit : String)
  deriving Repr, DecidableEq

/-- How a fault of the text `raw` is worded. -/
def Fault.text (raw : String) : Fault → String
  | invalid => "time: invalid duration " ++ Text.quoteBytes raw
  | missingUnit => "time: missing unit in duration " ++ Text.quoteBytes raw
  | unknownUnit unit =>
    "time: unknown unit " ++ Text.quoteBytes unit ++ " in duration " ++ Text.quoteBytes raw

/-- The nanoseconds of a unit; the micro sign and the Greek letter mean the
same. -/
def unit? (u : String) : Option Nat :=
  match u with
  | "ns" => some 1
  | "us" => some 1000
  | "µs" => some 1000
  | "μs" => some 1000
  | "ms" => some 1000000
  | "s" => some 1000000000
  | "m" => some 60000000000
  | "h" => some 3600000000000
  | _ => none

/-- The largest magnitude, that of the most negative duration. -/
def limit : Nat := Nat.pow 2 63

/-- Reads fraction digits as long as their value fits: the value, and how many
digits it has. -/
def fraction : Nat → Nat → List Char → Nat × Nat
  | n, places, [] => (n, places)
  | n, places, c :: cs =>
    let n' := n * 10 + Digits.digit c
    if (limit - 1) / 10 < n ∨ limit < n' then (n, places) else fraction n' (places + 1) cs

/-- `10 ^ places`, multiplied up in doubles. It is exact as far as a double can
be, up to 22 places. -/
def tenfold : Nat → Nat × Int
  | 0 => Binary64.nearest 1 1
  | places + 1 => Binary64.times (tenfold places) (Binary64.nearest 10 1)

/-- `n / 10 ^ places` of a unit in whole nanoseconds, by way of doubles: the
unit is divided first. -/
def scale (n places unit : Nat) : Nat :=
  Binary64.truncate <|
    Binary64.times (Binary64.nearest n 1)
      (Binary64.divide (Binary64.nearest unit 1) (tenfold places))

/-- A character of a number. -/
def isNumeric (c : Char) : Bool := c.isDigit || c = '.'

/-- One number and what follows it: its whole part, its fraction's value and
number of digits. -/
def number (cs : List Char) : Except Fault (Nat × Nat × Nat × List Char) :=
  let whole := cs.takeWhile Char.isDigit
  let rest := cs.dropWhile Char.isDigit
  let n := Digits.value whole
  if limit < n then .error .invalid
  else match rest with
    | '.' :: rest =>
      let digits := rest.takeWhile Char.isDigit
      if whole.isEmpty ∧ digits.isEmpty then .error .invalid
      else
        let (f, places) := fraction 0 0 digits
        .ok (n, f, places, rest.dropWhile Char.isDigit)
    | rest => if whole.isEmpty then .error .invalid else .ok (n, 0, 0, rest)

/-- The sum of two magnitudes in 64 bits without sign. -/
def add64 (m n : Nat) : Nat := (m + n) % Nat.pow 2 64

/-- The magnitude of numbers with units, added to `total`. The first argument
bounds the number of terms. -/
def terms : Nat → Nat → List Char → Except Fault Nat
  | _, total, [] => .ok total
  | 0, _, _ :: _ => .error .invalid
  | fuel + 1, total, c :: cs => do
    let (n, f, places, rest) ← number (c :: cs)
    let name := rest.takeWhile fun c => !isNumeric c
    if name.isEmpty then .error .missingUnit
    else match unit? (String.ofList name) with
      | none => .error (.unknownUnit (String.ofList name))
      | some unit =>
        if limit / unit < n then .error .invalid
        else
          let v := n * unit + (if f = 0 then 0 else scale f places unit)
          if limit < v ∨ limit < add64 total v then .error .invalid
          else terms fuel (add64 total v) (rest.dropWhile fun c => !isNumeric c)

/-- The duration a text spells: an optional sign and numbers with units, or
just `0`. -/
def read (s : String) : Except Fault Int :=
  let (negative, body) := Decimal.takeSign s.toList
  if body = ['0'] then .ok 0
  else if body.isEmpty then .error .invalid
  else do
    let n ← terms body.length 0 body
    if negative then .ok (-(n : Int))
    else if limit ≤ n then .error .invalid else .ok n

/-- `n / 10 ^ places`, with a point and without zeros at its end. -/
def decimalText (n places : Nat) : List Char :=
  let kept := ((Digits.padded places (n % Nat.pow 10 places)).reverse.dropWhile (· == '0')).reverse
  Digits.ofNat (n / Nat.pow 10 places) ++ (if kept.isEmpty then [] else '.' :: kept)

/-- The text of a magnitude: below a second in its largest fitting unit, else
in hours, minutes and seconds. -/
def magnitudeText (n : Nat) : List Char :=
  if n = 0 then ['0', 's']
  else if n < 1000 then Digits.ofNat n ++ ['n', 's']
  else if n < 1000000 then decimalText n 3 ++ ['µ', 's']
  else if n < 1000000000 then decimalText n 6 ++ ['m', 's']
  else
    let whole := n / 1000000000
    let hours := whole / 3600
    let minutes := whole / 60 % 60
    (if hours = 0 then [] else Digits.ofNat hours ++ ['h']) ++
    (if whole < 60 then [] else Digits.ofNat minutes ++ ['m']) ++
    decimalText (n % 60000000000) 9 ++ ['s']

/-- The text of a duration. -/
def text (d : Int) : String :=
  String.ofList (if d < 0 then '-' :: magnitudeText d.natAbs else magnitudeText d.natAbs)

end Duration
end PaymentGateway
