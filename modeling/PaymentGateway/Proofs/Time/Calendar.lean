/-
# The calendar counts every day once

The date of a day exists (`isValid_ofDays`) and counts back to the day
(`toDays_ofDays`). The year is found by one correction of a guess: the mean year
is `146097 / 400` days, and the days before a year stay so close to that many
times the year that the guess is off by at most one (`yearOf_spec`). Within the
year, taking whole months off a day that is less than their sum leaves a day of
the month where it stops (`monthOf_spec`).

Key theorems: `Calendar.yearOf_spec`, `Calendar.monthOf_spec`,
`Date.isValid_ofDays`, `Date.toDays_ofDays`.
-/
import PaymentGateway.Time.Calendar

namespace PaymentGateway
namespace Calendar

/-- The days of a list of months. -/
def total (lengths : List Nat) : Nat := lengths.foldr (· + ·) 0

/-- A year has 365 days, a leap year one more. -/
theorem daysBeforeYear_succ (y : Int) :
    daysBeforeYear (y + 1) = daysBeforeYear y + total (monthLengths (isLeap y)) := by
  have hleap : (total (monthLengths (isLeap y)) : Int) = if isLeap y then 366 else 365 := by
    cases isLeap y <;> rfl
  rw [hleap]
  simp only [daysBeforeYear, isLeap, Bool.and_eq_true, Bool.or_eq_true, decide_eq_true_eq]
  split <;> omega

/-- **The year of a day starts at or before it, and the next year after it.** -/
theorem yearOf_spec (d : Int) :
    daysBeforeYear (yearOf d) ≤ d ∧ d < daysBeforeYear (yearOf d + 1) := by
  -- the days before a year are less than two days off its 146097 / 400
  have hbelow : daysBeforeYear (400 * d / 146097 - 1) ≤ d := by
    unfold daysBeforeYear
    omega
  have habove : d < daysBeforeYear (400 * d / 146097 + 1 + 1) := by
    unfold daysBeforeYear
    omega
  unfold yearOf
  simp only
  generalize 400 * d / 146097 = guess at hbelow habove ⊢
  split
  · next hless =>
    rw [Int.sub_add_cancel]
    exact ⟨hbelow, hless⟩
  · next hless =>
    split
    · next hmore => exact ⟨hmore, habove⟩
    · next hmore => exact ⟨by omega, by omega⟩

/-- **Taking whole months off a day of the year** stops in a month that has the
day that is left. -/
theorem monthOf_spec : ∀ (ls : List Nat) (m d : Nat), d < total ls →
    ∃ i l r, monthOf ls m d = (m + i, r) ∧ ls[i]? = some l ∧ r < l ∧ total (ls.take i) + r = d
  | [], _, d, h => absurd h (Nat.not_lt_zero d)
  | l :: ls, m, d, h => by
    rw [monthOf]
    by_cases hd : d < l
    · rw [if_pos hd]
      exact ⟨0, l, d, rfl, rfl, hd, Nat.zero_add d⟩
    · have hrest : d - l < total ls := by
        have htotal : total (l :: ls) = l + total ls := rfl
        omega
      obtain ⟨i, k, r, hmonth, hget, hr, htake⟩ := monthOf_spec ls (m + 1) (d - l) hrest
      rw [if_neg hd, hmonth]
      refine ⟨i + 1, k, r, by rw [Nat.add_assoc, Nat.add_comm 1 i], hget, hr, ?_⟩
      have htotal : total ((l :: ls).take (i + 1)) = l + total (ls.take i) := rfl
      omega

theorem length_monthLengths (leap : Bool) : (monthLengths leap).length = 12 := rfl

end Calendar

namespace Date

open Calendar

/-- The month and the day of the month of a day, which lie in its year. -/
theorem ofDays_spec (d : Int) :
    ∃ i l r, ofDays d = ⟨yearOf d, i + 1, r + 1⟩ ∧
      (monthLengths (isLeap (yearOf d)))[i]? = some l ∧ r < l ∧
      daysBeforeYear (yearOf d) + total ((monthLengths (isLeap (yearOf d))).take i) + r = d := by
  obtain ⟨hfrom, hto⟩ := yearOf_spec d
  rw [daysBeforeYear_succ] at hto
  obtain ⟨i, l, r, hmonth, hget, hr, hsum⟩ :=
    monthOf_spec (monthLengths (isLeap (yearOf d))) 1 (d - daysBeforeYear (yearOf d)).toNat
      (by omega)
  refine ⟨i, l, r, ?_, hget, hr, by omega⟩
  rw [ofDays]
  simp only [hmonth, Nat.add_comm 1 i]

/-- **The date of a day exists.** -/
theorem isValid_ofDays (d : Int) : (ofDays d).isValid = true := by
  obtain ⟨i, l, r, hdate, hget, hr, -⟩ := ofDays_spec d
  have hmonth : i < 12 := by
    obtain ⟨hlt, -⟩ := List.getElem?_eq_some_iff.mp hget
    rwa [length_monthLengths] at hlt
  have hdays : daysIn (yearOf d) (i + 1) = l := by rw [daysIn, List.getD, hget]; rfl
  rw [hdate]
  simp only [isValid, hdays, Bool.and_eq_true, decide_eq_true_eq]
  omega

/-- **The date of a day counts back to the day.** -/
theorem toDays_ofDays (d : Int) : (ofDays d).toDays = d := by
  obtain ⟨i, l, r, hdate, -, -, hsum⟩ := ofDays_spec d
  rw [hdate, toDays]
  simp only [daysBeforeMonth, Nat.add_sub_cancel]
  unfold total at hsum
  omega

end Date
end PaymentGateway
