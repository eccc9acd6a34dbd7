/-
# The days of the calendar, one after the other

The day after a date is the next of its month, the first of the next month or the first of the
next year (`Date.next`), so February decides what a leap year is and nothing else has to be said
about it. The days are numbered from 1 January 1970 by going on and back, day by day
(`Date.Counts`). The count in closed form goes up by one from a date to the next
(`Date.toDays_next`) and tells existing dates apart (`Date.toDays_injective`), so it numbers the
days (`Date.counts_iff`), and every number is that of one date (`Date.counts_ofDays`).

Key definitions: `Date.next`, `Date.Counts`.
Key theorems: `Date.toDays_next`, `Date.toDays_injective`, `Date.counts_iff`,
`Date.counts_ofDays`.
-/
import Mathlib.Data.Int.Init
import PaymentGateway.Proofs.Time.Calendar
import PaymentGateway.Time.Moment

namespace PaymentGateway

/-! ### Months within a year -/

namespace Calendar

theorem daysBeforeMonth_succ (y : Int) {m : Nat} (hm : m < 12) :
    daysBeforeMonth y (m + 1 + 1) = daysBeforeMonth y (m + 1) + daysIn y (m + 1) := by
  have hall : ∀ leap, ∀ i < 12, total ((monthLengths leap).take (i + 1)) =
      total ((monthLengths leap).take i) + (monthLengths leap).getD i 0 := by decide
  exact hall (isLeap y) m hm

/-- A later month starts when the month is over. -/
theorem daysBeforeMonth_lt (y : Int) {m m' : Nat} (hlt : m < m') (hm' : m' < 12) :
    daysBeforeMonth y (m + 1) + daysIn y (m + 1) ≤ daysBeforeMonth y (m' + 1) := by
  have hall : ∀ leap, ∀ i < 12, ∀ j < i, total ((monthLengths leap).take j) +
      (monthLengths leap).getD j 0 ≤ total ((monthLengths leap).take i) := by decide
  exact hall (isLeap y) m' hm' m hlt

/-- A year is over when its last month is. -/
theorem daysBeforeYear_month (y : Int) {m : Nat} (hm : m < 12) :
    daysBeforeYear y + daysBeforeMonth y (m + 1) + daysIn y (m + 1) ≤ daysBeforeYear (y + 1) := by
  have hall : ∀ leap, ∀ i < 12, total ((monthLengths leap).take i) +
      (monthLengths leap).getD i 0 ≤ total (monthLengths leap) := by decide
  have hmonth := hall (isLeap y) m hm
  have hsum : daysBeforeMonth y (m + 1) + daysIn y (m + 1) ≤ total (monthLengths (isLeap y)) :=
    hmonth
  rw [daysBeforeYear_succ]
  omega

theorem daysBeforeYear_december (y : Int) :
    daysBeforeYear (y + 1) = daysBeforeYear y + daysBeforeMonth y 12 + daysIn y 12 := by
  have hall : ∀ leap, total (monthLengths leap) = total ((monthLengths leap).take 11) +
      (monthLengths leap).getD 11 0 := by decide
  have hsum : total (monthLengths (isLeap y)) = daysBeforeMonth y 12 + daysIn y 12 :=
    hall (isLeap y)
  rw [daysBeforeYear_succ, hsum]
  omega

theorem daysBeforeYear_mono {y y' : Int} (h : y ≤ y') : daysBeforeYear y ≤ daysBeforeYear y' := by
  unfold daysBeforeYear
  omega

theorem daysIn_pos (y : Int) {m : Nat} (hm : m < 12) : 1 ≤ daysIn y (m + 1) := by
  have hall : ∀ leap, ∀ i < 12, 1 ≤ (monthLengths leap).getD i 0 := by decide
  exact hall (isLeap y) m hm

end Calendar

/-! ### From one date to the next -/

namespace Date

open Calendar

/-- The day after a date. -/
def next (d : Date) : Date :=
  if d.day < daysIn d.year d.month then { d with day := d.day + 1 }
  else if d.month < 12 then ⟨d.year, d.month + 1, 1⟩
  else ⟨d.year + 1, 1, 1⟩

/-- A date that exists, its month counted from 0. -/
theorem isValid_iff {d : Date} : d.isValid = true ↔
    ∃ m < 12, d.month = m + 1 ∧ 1 ≤ d.day ∧ d.day ≤ daysIn d.year (m + 1) := by
  simp only [isValid, Bool.and_eq_true, decide_eq_true_eq]
  constructor
  · rintro ⟨⟨⟨hfrom, hto⟩, hday⟩, hlast⟩
    refine ⟨d.month - 1, by omega, by omega, hday, ?_⟩
    rwa [Nat.sub_add_cancel hfrom]
  · rintro ⟨m, hm, hmonth, hday, hlast⟩
    rw [hmonth]
    exact ⟨⟨⟨by omega, by omega⟩, hday⟩, hlast⟩

theorem isValid_next {d : Date} (h : d.isValid = true) : d.next.isValid = true := by
  obtain ⟨m, hm, hmonth, hday, -⟩ := isValid_iff.mp h
  unfold next
  split
  · next hless =>
    rw [hmonth] at hless
    exact isValid_iff.mpr ⟨m, hm, hmonth, Nat.le_add_left 1 d.day, hless⟩
  · split
    · next hless =>
      have hlater : m + 1 < 12 := by omega
      exact isValid_iff.mpr ⟨m + 1, hlater, by simp [hmonth], Nat.le_refl 1, daysIn_pos _ hlater⟩
    · exact isValid_iff.mpr ⟨0, by omega, rfl, Nat.le_refl 1, daysIn_pos _ (by omega)⟩

/-- **From a date to the next it is one day.** -/
theorem toDays_next {d : Date} (h : d.isValid = true) : d.next.toDays = d.toDays + 1 := by
  obtain ⟨m, hm, hmonth, hday, hlast⟩ := isValid_iff.mp h
  unfold next
  split
  · simp only [toDays]
    omega
  · next hfull =>
    rw [hmonth] at hfull
    split
    · have hmonths := daysBeforeMonth_succ d.year hm
      simp only [toDays, hmonth]
      omega
    · next hlater =>
      have hdecember : m = 11 := by omega
      subst hdecember
      have hyear := daysBeforeYear_december d.year
      have hjanuary : daysBeforeMonth (d.year + 1) 1 = 0 := rfl
      simp only [toDays, hmonth, hjanuary, Nat.reduceAdd] at hfull hlast ⊢
      omega

/-- A date lies before the end of its year. -/
theorem toDays_lt {d : Date} (h : d.isValid = true) :
    daysBeforeYear d.year ≤ d.toDays ∧ d.toDays < daysBeforeYear (d.year + 1) := by
  obtain ⟨m, hm, hmonth, hday, hlast⟩ := isValid_iff.mp h
  have hyear := daysBeforeYear_month d.year hm
  simp only [toDays, hmonth]
  omega

/-- **Existing dates are told apart by their count.** -/
theorem toDays_injective {d d' : Date} (h : d.isValid = true) (h' : d'.isValid = true)
    (heq : d.toDays = d'.toDays) : d = d' := by
  obtain ⟨hfrom, hto⟩ := toDays_lt h
  obtain ⟨hfrom', hto'⟩ := toDays_lt h'
  have hyear : d.year = d'.year := by
    rcases Int.lt_trichotomy d.year d'.year with hlt | hsame | hlt
    · have hle := daysBeforeYear_mono (show d.year + 1 ≤ d'.year by omega)
      omega
    · exact hsame
    · have hle := daysBeforeYear_mono (show d'.year + 1 ≤ d.year by omega)
      omega
  obtain ⟨y, month, day⟩ := d
  obtain ⟨y', month', day'⟩ := d'
  obtain ⟨m, hm, rfl, hday, hlast⟩ := isValid_iff.mp h
  obtain ⟨m', hm', rfl, hday', hlast'⟩ := isValid_iff.mp h'
  simp only [toDays] at hyear hday hlast hday' hlast' heq
  subst hyear
  have hmonth : m = m' := by
    rcases Nat.lt_trichotomy m m' with hlt | hsame | hlt
    · have hle := daysBeforeMonth_lt y hlt hm'
      omega
    · exact hsame
    · have hle := daysBeforeMonth_lt y hlt hm
      omega
  subst hmonth
  have hsame : day = day' := by omega
  rw [hsame]

/-! ### Numbers for the days -/

/-- The number of a date, counted day by day from 1 January 1970. -/
inductive Counts : Int → Date → Prop
  | epoch : Counts 0 ⟨1970, 1, 1⟩
  | next {n : Int} {d : Date} : Counts n d → Counts (n + 1) d.next
  | back {n : Int} {d : Date} : d.isValid = true → Counts n d.next → Counts (n - 1) d

/-- What is counted exists, and its count in closed form is its number. -/
theorem Counts.toDays_eq {n : Int} {d : Date} (h : Counts n d) :
    d.isValid = true ∧ d.toDays = n + Civil.epochDays := by
  induction h with
  | epoch => exact ⟨rfl, rfl⟩
  | next _ ih =>
    refine ⟨isValid_next ih.1, ?_⟩
    rw [toDays_next ih.1, ih.2]
    omega
  | back hvalid _ ih =>
    have hnext := toDays_next hvalid
    rw [ih.2] at hnext
    exact ⟨hvalid, by omega⟩

theorem eq_ofDays {d : Date} {n : Int} (h : d.isValid = true) (hdays : d.toDays = n) :
    d = ofDays n := by
  apply toDays_injective h (isValid_ofDays n)
  rw [hdays, toDays_ofDays]

theorem next_ofDays (n : Int) : (ofDays n).next = ofDays (n + 1) := by
  apply eq_ofDays (isValid_next (isValid_ofDays n))
  rw [toDays_next (isValid_ofDays n), toDays_ofDays]

/-- **Every number is that of a date.** -/
theorem counts_ofDays (n : Int) : Counts n (ofDays (n + Civil.epochDays)) := by
  induction n using Int.induction_on with
  | zero => exact .epoch
  | succ n ih =>
    have hnext := next_ofDays (n + Civil.epochDays)
    rw [show (n : Int) + Civil.epochDays + 1 = n + 1 + Civil.epochDays by omega] at hnext
    exact hnext ▸ ih.next
  | pred n ih =>
    have hnext := next_ofDays (-(n : Int) - 1 + Civil.epochDays)
    rw [show -(n : Int) - 1 + Civil.epochDays + 1 = -n + Civil.epochDays by omega] at hnext
    exact .back (isValid_ofDays _) (hnext ▸ ih)

/-- **The count in closed form numbers the days.** -/
theorem counts_iff {n : Int} {d : Date} :
    Counts n d ↔ d.isValid = true ∧ d.toDays = n + Civil.epochDays := by
  constructor
  · exact Counts.toDays_eq
  · rintro ⟨hvalid, hdays⟩
    exact eq_ofDays hvalid hdays ▸ counts_ofDays n

end Date
end PaymentGateway
