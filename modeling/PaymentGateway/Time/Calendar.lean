/-
# The civil calendar

Dates of the proleptic Gregorian calendar and the number of days since
1 January of the year 0. The year of a day is guessed from the mean length of a
year and corrected by at most one; month and day are found by taking whole
months off the day of the year.

Key definitions: `Calendar.daysBeforeYear`, `Date.toDays`, `Date.ofDays`.
-/
namespace PaymentGateway

namespace Calendar

/-- A year with 366 days. -/
def isLeap (y : Int) : Bool := y % 4 = 0 && (y % 100 ≠ 0 || y % 400 = 0)

/-- The days from the start of the year 0 to the start of the year `y`. -/
def daysBeforeYear (y : Int) : Int :=
  365 * y + (y + 3) / 4 - (y + 99) / 100 + (y + 399) / 400

/-- The lengths of the months of a year. -/
def monthLengths (leap : Bool) : List Nat :=
  [31, if leap then 29 else 28, 31, 30, 31, 30, 31, 31, 30, 31, 30, 31]

/-- The length of a month, 1 to 12; other months have no days. -/
def daysIn (y : Int) (month : Nat) : Nat :=
  match month with
  | 0 => 0
  | m + 1 => (monthLengths (isLeap y)).getD m 0

/-- The days of the year before the start of a month. -/
def daysBeforeMonth (y : Int) (month : Nat) : Nat :=
  ((monthLengths (isLeap y)).take (month - 1)).foldr (· + ·) 0

/-- The year that day `d` falls in. -/
def yearOf (d : Int) : Int :=
  let guess := 400 * d / 146097
  if d < daysBeforeYear guess then guess - 1
  else if daysBeforeYear (guess + 1) ≤ d then guess + 1
  else guess

/-- Takes whole months off a day of the year: the month, counted from `m`, and
the day within it, counted from 0. -/
def monthOf : List Nat → Nat → Nat → Nat × Nat
  | [], m, d => (m, d)
  | l :: ls, m, d => if d < l then (m, d) else monthOf ls (m + 1) (d - l)

end Calendar

/-- A date: year, month 1 to 12, day of the month from 1. -/
structure Date where
  year : Int
  month : Nat
  day : Nat
  deriving Repr, DecidableEq

namespace Date

/-- A date that exists. -/
def isValid (d : Date) : Bool :=
  1 ≤ d.month && d.month ≤ 12 && 1 ≤ d.day && d.day ≤ Calendar.daysIn d.year d.month

/-- The days from 1 January of the year 0 to the date. -/
def toDays (d : Date) : Int :=
  Calendar.daysBeforeYear d.year + Calendar.daysBeforeMonth d.year d.month + ((d.day : Int) - 1)

/-- The date that many days after 1 January of the year 0. -/
def ofDays (d : Int) : Date :=
  let year := Calendar.yearOf d
  let (month, day) :=
    Calendar.monthOf (Calendar.monthLengths (Calendar.isLeap year)) 1
      (d - Calendar.daysBeforeYear year).toNat
  ⟨year, month, day + 1⟩

end Date
end PaymentGateway
