/-
# Moments

A moment is an instant, to the nanosecond, together with the zone offset it is
shown in. Its text is that of RFC 3339. Writing gives up on a year outside 0 to
9999 and on an offset of a day or more; reading is a little more liberal than
writing (one digit for the hour, a comma before the fraction, offsets up to
24:60), and drops digits beyond the nanosecond.

Key definitions: `Moment`, `Moment.zero`, `Moment.write?`, `Moment.utcText`,
`Moment.utcMillis`, `Moment.read?`.
-/
import PaymentGateway.Number.Decimal
import PaymentGateway.Time.Calendar

namespace PaymentGateway

/-- The instant `seconds` after 1970 began, and `nanos` more, shown `offset`
seconds east. -/
structure Moment where
  seconds : Int
  nanos : Nat
  offset : Int
  deriving Repr, DecidableEq, Inhabited

/-- A time of day on a date. -/
structure Civil where
  date : Date
  hour : Nat
  minute : Nat
  second : Nat
  deriving Repr, DecidableEq

namespace Civil

/-- The days from the start of the year 0 to the start of 1970. -/
def epochDays : Int := 719528

/-- The civil time that many seconds after 1970 began. -/
def ofSeconds (s : Int) : Civil :=
  let ofDay := (s % 86400).toNat
  ⟨Date.ofDays (s / 86400 + epochDays), ofDay / 3600, ofDay % 3600 / 60, ofDay % 60⟩

/-- The seconds from the start of 1970 to a civil time. -/
def toSeconds (c : Civil) : Int :=
  (c.date.toDays - epochDays) * 86400 + c.hour * 3600 + c.minute * 60 + c.second

/-- A year with at least four digits. -/
def yearText (y : Int) : List Char :=
  if y < 0 then '-' :: Digits.padded 4 y.natAbs else Digits.padded 4 y.natAbs

/-- Date and time up to the second, with a `T` between them. -/
def text (c : Civil) : List Char :=
  yearText c.date.year ++ '-' :: (Digits.padded 2 c.date.month ++ '-' ::
    (Digits.padded 2 c.date.day ++ 'T' :: (Digits.padded 2 c.hour ++ ':' ::
      (Digits.padded 2 c.minute ++ ':' :: Digits.padded 2 c.second))))

end Civil

namespace Moment

/-- The start of the year 1: a moment that was not set. -/
def zero : Moment := ⟨-62135596800, 0, 0⟩

/-- Whether the instant is the start of the year 1, whatever the offset. -/
def isZero (m : Moment) : Bool := m.seconds = zero.seconds && m.nanos = 0

/-- The instant `nanos` nanoseconds, of either sign, after a second. -/
def ofUnix (seconds nanos offset : Int) : Moment :=
  ⟨seconds + nanos / 1000000000, (nanos % 1000000000).toNat, offset⟩

/-- The civil time in the moment's own zone. -/
def civil (m : Moment) : Civil := Civil.ofSeconds (m.seconds + m.offset)

/-- The fraction of the second, zeros at its end left out. -/
def fractionText (nanos : Nat) : List Char :=
  if nanos = 0 then []
  else '.' :: ((Digits.padded 9 nanos).reverse.dropWhile (· == '0')).reverse

/-- The offset in hours and minutes, `Z` for none at all. -/
def offsetText (offset : Int) : List Char :=
  if offset = 0 then ['Z']
  else
    let minutes := offset.natAbs / 60
    (if offset < 0 ∧ minutes ≠ 0 then '-' else '+') ::
      (Digits.padded 2 (minutes / 60) ++ ':' :: Digits.padded 2 (minutes % 60))

/-- The moment as text. -/
def text (m : Moment) : List Char :=
  m.civil.text ++ fractionText m.nanos ++ offsetText m.offset

/-- The moment as text, if its year has four digits and its offset stays below
a day. -/
def write? (m : Moment) : Option String :=
  let year := m.civil.date.year
  if 0 ≤ year ∧ year ≤ 9999 ∧ m.offset.natAbs / 3600 < 24 then some (String.ofList m.text)
  else none

/-- The instant as text in universal time. -/
def utcText (m : Moment) : String := String.ofList ({ m with offset := 0 } : Moment).text

/-- The instant in universal time with three digits for the fraction, further
digits dropped. -/
def utcMillis (m : Moment) : String :=
  String.ofList ((Civil.ofSeconds m.seconds).text ++
    '.' :: (Digits.padded 3 (m.nanos / 1000000) ++ ['Z']))

/-- Two digits and what follows them. -/
def twoDigits? : List Char → Option (Nat × List Char)
  | a :: b :: rest =>
    if a.isDigit ∧ b.isDigit then some (Digits.digit a * 10 + Digits.digit b, rest) else none
  | _ => none

/-- One or two digits and what follows them. -/
def oneOrTwoDigits? : List Char → Option (Nat × List Char)
  | a :: b :: rest =>
    if a.isDigit then
      if b.isDigit then some (Digits.digit a * 10 + Digits.digit b, rest)
      else some (Digits.digit a, b :: rest)
    else none
  | [a] => if a.isDigit then some (Digits.digit a, []) else none
  | [] => none

/-- Four digits and what follows them. -/
def fourDigits? (cs : List Char) : Option (Nat × List Char) := do
  let (hi, rest) ← twoDigits? cs
  let (lo, rest) ← twoDigits? rest
  return (hi * 100 + lo, rest)

/-- What follows an expected character. -/
def after? (c : Char) : List Char → Option (List Char)
  | x :: rest => if x = c then some rest else none
  | [] => none

/-- A fraction, if a point or comma and a digit come next, in nanoseconds; and
what follows it. -/
def takeNanos : List Char → Nat × List Char
  | mark :: d :: rest =>
    if (mark = '.' ∨ mark = ',') ∧ d.isDigit then
      let digits := (d :: rest).takeWhile Char.isDigit
      (Digits.value (digits.take 9) * Nat.pow 10 (9 - (digits.take 9).length),
        (d :: rest).dropWhile Char.isDigit)
    else (0, mark :: d :: rest)
  | cs => (0, cs)

/-- The offset that ends a text, in seconds. -/
def readOffset? : List Char → Option Int
  | ['Z'] => some 0
  | sign :: rest => do
    let (hours, rest) ← twoDigits? rest
    let rest ← after? ':' rest
    let (minutes, rest) ← twoDigits? rest
    if rest.isEmpty ∧ hours ≤ 24 ∧ minutes ≤ 60 then
      let seconds : Int := (hours * 60 + minutes) * 60
      if sign = '+' then some seconds else if sign = '-' then some (-seconds) else none
    else none
  | [] => none

/-- The moment a text spells. -/
def read? (cs : List Char) : Option Moment := do
  let (year, cs) ← fourDigits? cs
  let (month, cs) ← twoDigits? (← after? '-' cs)
  let (day, cs) ← twoDigits? (← after? '-' cs)
  let (hour, cs) ← oneOrTwoDigits? (← after? 'T' cs)
  let (minute, cs) ← twoDigits? (← after? ':' cs)
  let (second, cs) ← twoDigits? (← after? ':' cs)
  let (nanos, cs) := takeNanos cs
  let offset ← readOffset? cs
  let date : Date := ⟨year, month, day⟩
  if date.isValid ∧ hour < 24 ∧ minute < 60 ∧ second < 60 then
    some ⟨(Civil.mk date hour minute second).toSeconds - offset, nanos, offset⟩
  else none

end Moment
end PaymentGateway
