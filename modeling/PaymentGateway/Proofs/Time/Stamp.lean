/-
# Spellings of an instant

A stamp is what a reader makes of a time in writing, part by part: a civil time, whether its hour
is written with one digit, the digits of its fraction, the mark before them and the zone
(`Stamp`). The times that are read are the texts of the stamps that exist, and they are read as
the moments of their stamps (`Moment.read?_iff`). So what instant a text denotes can be said
without the reader: by the count of the days, the time of day, the zone, and as many digits of the
fraction as make whole nanoseconds (`Stamp.instant`, `Denotes`).

Key definitions: `Zone`, `Stamp`, `Stamp.instant`, `Denotes`.
Key theorems: `Moment.read?_iff`, `denotes_iff`.
-/
import PaymentGateway.Proofs.Time.DayCount
import PaymentGateway.Proofs.Time.Moment

namespace PaymentGateway

/-- Where a time is shown: in universal time, or so far east or west of it. -/
inductive Zone where
  | utc
  | apart (west : Bool) (hours minutes : Nat)
  deriving Repr, DecidableEq

namespace Zone

/-- The zone in writing. -/
def text : Zone → List Char
  | utc => ['Z']
  | apart west hours minutes =>
    (if west then '-' else '+') :: (Digits.padded 2 hours ++ ':' :: Digits.padded 2 minutes)

/-- The seconds east of universal time. -/
def offset : Zone → Int
  | utc => 0
  | apart west hours minutes =>
    let seconds : Int := (hours * 60 + minutes) * 60
    if west then -seconds else seconds

/-- A zone that is taken for one: up to 24 hours and 60 minutes. -/
def Exists : Zone → Prop
  | utc => True
  | apart _ hours minutes => hours ≤ 24 ∧ minutes ≤ 60

end Zone

/-- A time in writing: a civil time, whether its hour has one digit only, the digits of the
fraction (none at all without one), whether a comma stands before them, and the zone. -/
structure Stamp where
  civil : Civil
  shortHour : Bool
  fraction : List Char
  comma : Bool
  zone : Zone
  deriving Repr, DecidableEq

namespace Stamp

/-- A stamp that exists, with a year of four digits. -/
structure Exists (s : Stamp) : Prop where
  civil : s.civil.Exists
  year : 0 ≤ s.civil.date.year ∧ s.civil.date.year ≤ 9999
  hour : s.shortHour = true → s.civil.hour < 10
  fraction : ∀ c ∈ s.fraction, c.isDigit = true
  zone : s.zone.Exists

/-- The hour in writing. -/
def hourText (s : Stamp) : List Char := Digits.padded (if s.shortHour then 1 else 2) s.civil.hour

/-- The fraction in writing, its mark in front. -/
def fractionText (s : Stamp) : List Char :=
  if s.fraction = [] then [] else (if s.comma then ',' else '.') :: s.fraction

/-- The text of a stamp. -/
def text (s : Stamp) : List Char :=
  Digits.padded 4 s.civil.date.year.toNat ++ '-' :: (Digits.padded 2 s.civil.date.month ++ '-' ::
    (Digits.padded 2 s.civil.date.day ++ 'T' :: (s.hourText ++ ':' ::
      (Digits.padded 2 s.civil.minute ++ ':' :: (Digits.padded 2 s.civil.second ++
        (s.fractionText ++ s.zone.text))))))

/-- The whole nanoseconds of the fraction. -/
def nanos (s : Stamp) : Nat :=
  Digits.naive s.fraction * 1000000000 / Nat.pow 10 s.fraction.length

/-- The moment of a stamp. -/
def moment (s : Stamp) : Moment :=
  ⟨s.civil.toSeconds - s.zone.offset, s.nanos, s.zone.offset⟩

end Stamp

namespace Moment

/-! ### Fields of a text -/

theorem after?_iff {c : Char} {cs rest : List Char} : after? c cs = some rest ↔ cs = c :: rest := by
  constructor
  · intro h
    cases cs with
    | nil => cases h
    | cons x more =>
      rw [after?] at h
      split at h
      · next hx =>
        cases h
        rw [hx]
      · cases h
  · rintro rfl
    exact after?_self c rest

theorem twoDigits?_iff {cs rest : List Char} {n : Nat} :
    twoDigits? cs = some (n, rest) ↔ n < 100 ∧ cs = Digits.padded 2 n ++ rest := by
  constructor
  · intro h
    unfold twoDigits? at h
    split at h
    · next a b more =>
      split at h
      · next hdigits =>
        have hall : ∀ c ∈ [a, b], c.isDigit = true := by simp [hdigits]
        have hvalue : Digits.naive [a, b] = n := by
          have hn := congrArg Prod.fst (Option.some.inj h)
          simp only [Digits.naive, List.foldl_cons, List.foldl_nil] at hn ⊢
          omega
        have hlt := Digits.naive_lt hall
        have htext := Digits.padded_naive (List.cons_ne_nil a [b]) hall
        rw [hvalue] at hlt htext
        cases h
        exact ⟨hlt, congrArg (· ++ rest) htext.symm⟩
      · cases h
    · cases h
  · rintro ⟨hn, rfl⟩
    exact twoDigits?_padded rest hn

theorem padded_four_split {hi lo : Nat} (hhi : hi < 100) (hlo : lo < 100) :
    Digits.padded 4 (hi * 100 + lo) = Digits.padded 2 hi ++ Digits.padded 2 lo := by
  have hlength {n : Nat} (hn : n < 100) : (Digits.padded 2 n).length = 2 :=
    Digits.length_padded (by omega) hn
  have hall : ∀ c ∈ Digits.padded 2 hi ++ Digits.padded 2 lo, c.isDigit = true :=
    List.forall_mem_append.mpr
      ⟨fun _ => Digits.isDigit_of_mem_padded, fun _ => Digits.isDigit_of_mem_padded⟩
  have hne : Digits.padded 2 hi ++ Digits.padded 2 lo ≠ [] := by
    intro hnil
    have hlen := congrArg List.length hnil
    rw [List.length_append, hlength hhi, hlength hlo] at hlen
    cases hlen
  have htext := Digits.padded_naive hne hall
  rw [Digits.naive_append, Digits.naive_padded, Digits.naive_padded, List.length_append,
    hlength hhi, hlength hlo] at htext
  exact htext

theorem fourDigits?_iff {cs rest : List Char} {n : Nat} :
    fourDigits? cs = some (n, rest) ↔ n < 10000 ∧ cs = Digits.padded 4 n ++ rest := by
  constructor
  · intro h
    simp only [fourDigits?, Option.bind_eq_bind, Option.bind_eq_some_iff, Prod.exists,
      twoDigits?_iff, Option.pure_def, Option.some.injEq, Prod.mk.injEq] at h
    obtain ⟨hi, more, ⟨hhi, rfl⟩, lo, last, ⟨hlo, rfl⟩, rfl, rfl⟩ := h
    refine ⟨by omega, ?_⟩
    rw [padded_four_split hhi hlo, List.append_assoc]
  · rintro ⟨hn, rfl⟩
    exact fourDigits?_padded rest hn

/-- An hour has two digits or one. -/
theorem oneOrTwoDigits?_some {cs rest : List Char} {n : Nat}
    (h : oneOrTwoDigits? cs = some (n, rest)) :
    ∃ short : Bool, (short = true → n < 10) ∧
      cs = Digits.padded (if short then 1 else 2) n ++ rest := by
  have hone {a : Char} (ha : a.isDigit = true) :
      Digits.digit a < 10 ∧ Digits.padded 1 (Digits.digit a) = [a] := by
    have hall : ∀ c ∈ [a], c.isDigit = true := by simp [ha]
    have hvalue : Digits.naive [a] = Digits.digit a := by simp [Digits.naive]
    have hlt := Digits.naive_lt hall
    have htext := Digits.padded_naive (List.cons_ne_nil a []) hall
    rw [hvalue] at hlt htext
    exact ⟨hlt, htext⟩
  unfold oneOrTwoDigits? at h
  split at h
  · next a b more =>
    split at h
    · next ha =>
      split at h
      · next hb =>
        have htwo : twoDigits? (a :: b :: more) = some (n, rest) := by
          rw [twoDigits?, if_pos ⟨ha, hb⟩, h]
        exact ⟨false, (by simp), (twoDigits?_iff.mp htwo).2⟩
      · cases h
        exact ⟨true, fun _ => (hone ha).1, congrArg (· ++ b :: more) (hone ha).2.symm⟩
    · cases h
  · next a =>
    split at h
    · next ha =>
      cases h
      exact ⟨true, fun _ => (hone ha).1, congrArg (· ++ []) (hone ha).2.symm⟩
    · cases h
  · cases h

theorem oneOrTwoDigits?_short {n : Nat} (hn : n < 10) (rest : List Char) :
    oneOrTwoDigits? (Digits.padded 1 n ++ ':' :: rest) = some (n, ':' :: rest) := by
  have hlength : (Digits.padded 1 n).length = 1 := Digits.length_padded (by omega) hn
  obtain ⟨a, ha⟩ := List.length_eq_one_iff.mp hlength
  have hdigit : a.isDigit = true := Digits.isDigit_of_mem_padded (w := 1) (n := n) (by simp [ha])
  have hvalue : Digits.digit a = n := by
    rw [← Digits.naive_padded 1 n, ha]
    simp [Digits.naive]
  rw [ha, List.singleton_append, oneOrTwoDigits?, if_pos hdigit, if_neg (by decide), hvalue]

/-! ### The fraction -/

/-- The first nine digits of a fraction, filled up with zeros, are its whole nanoseconds. -/
theorem nanos_digits {ds : List Char} (h : ∀ c ∈ ds, c.isDigit = true) :
    Digits.value (ds.take 9) * Nat.pow 10 (9 - (ds.take 9).length) =
      Digits.naive ds * 1000000000 / Nat.pow 10 ds.length := by
  rw [Digits.value_eq_naive]
  have hpos (k : Nat) : 0 < Nat.pow 10 k := Nat.pow_pos (by omega)
  by_cases hlong : ds.length ≤ 9
  · have hpow : 1000000000 = Nat.pow 10 (9 - ds.length) * Nat.pow 10 ds.length := by
      show Nat.pow 10 9 = 10 ^ (9 - ds.length) * 10 ^ ds.length
      rw [← Nat.pow_add, Nat.sub_add_cancel hlong]
    rw [List.take_of_length_le hlong, hpow, ← Nat.mul_assoc, Nat.mul_div_cancel _ (hpos _)]
  · have hdigits : ∀ c ∈ ds.drop 9, c.isDigit = true := fun c hc => h c (List.mem_of_mem_drop hc)
    have hdrop := Digits.naive_append_div (ds.take 9) hdigits
    have hlength : (ds.take 9).length = 9 := by
      rw [List.length_take]
      omega
    have hpow : Nat.pow 10 ds.length = 1000000000 * Nat.pow 10 (ds.drop 9).length := by
      rw [List.length_drop]
      show 10 ^ ds.length = 10 ^ 9 * 10 ^ (ds.length - 9)
      rw [← Nat.pow_add]
      congr 1
      omega
    rw [List.take_append_drop] at hdrop
    rw [hlength, hpow, Nat.mul_comm (Digits.naive ds), Nat.mul_div_mul_left _ _ (by decide), hdrop]
    exact Nat.mul_one _

/-- What is taken for a fraction is one, in writing. -/
theorem takeNanos_some {cs rest : List Char} {n : Nat} (h : takeNanos cs = (n, rest)) :
    ∃ (ds : List Char) (comma : Bool), (∀ c ∈ ds, c.isDigit = true) ∧
      cs = (if ds = [] then [] else (if comma then ',' else '.') :: ds) ++ rest ∧
      Digits.naive ds * 1000000000 / Nat.pow 10 ds.length = n := by
  unfold takeNanos at h
  split at h
  · next mark d more =>
    split at h
    · next hmark =>
      simp only [Prod.mk.injEq] at h
      obtain ⟨hn, hrest⟩ := h
      have hall : ∀ c ∈ (d :: more).takeWhile Char.isDigit, c.isDigit = true :=
        List.all_eq_true.mp List.all_takeWhile
      have hne : (d :: more).takeWhile Char.isDigit ≠ [] := by
        rw [List.takeWhile_cons_of_pos hmark.2]
        exact List.cons_ne_nil d _
      have hmarkText : (if decide (mark = ',') then ',' else '.') = mark := by
        obtain ⟨rfl | rfl, -⟩ := hmark <;> rfl
      refine ⟨_, decide (mark = ','), hall, ?_, (nanos_digits hall).symm.trans hn⟩
      rw [if_neg hne, hmarkText, ← hrest, List.cons_append, List.takeWhile_append_dropWhile]
    · cases h
      exact ⟨[], false, by simp, rfl, rfl⟩
  · cases h
    exact ⟨[], false, by simp, rfl, rfl⟩

/-! ### The zone -/

theorem readOffset?_iff {cs : List Char} {o : Int} :
    readOffset? cs = some o ↔ ∃ z : Zone, z.Exists ∧ z.text = cs ∧ z.offset = o := by
  constructor
  · intro h
    unfold readOffset? at h
    split at h
    · cases h
      exact ⟨.utc, trivial, rfl, rfl⟩
    · next sign rest _ =>
      simp only [Option.bind_eq_bind, Option.bind_eq_some_iff, Prod.exists, twoDigits?_iff,
        after?_iff] at h
      obtain ⟨hours, _, ⟨-, rfl⟩, _, rfl, minutes, last, ⟨-, rfl⟩, h⟩ := h
      split at h
      · next hbounds =>
        obtain ⟨hlast, hhours, hminutes⟩ := hbounds
        rw [List.isEmpty_iff.mp hlast, List.append_nil]
        split at h
        · next hsign =>
          cases h
          exact ⟨.apart false hours minutes, ⟨hhours, hminutes⟩, by rw [hsign]; rfl, rfl⟩
        · split at h
          · next hsign =>
            cases h
            exact ⟨.apart true hours minutes, ⟨hhours, hminutes⟩, by rw [hsign]; rfl, rfl⟩
          · cases h
      · cases h
    · cases h
  · rintro ⟨z, hz, rfl, rfl⟩
    cases z with
    | utc => rfl
    | apart west hours minutes =>
      obtain ⟨hhours, hminutes⟩ := hz
      have hlast := twoDigits?_padded [] (show minutes < 100 by omega)
      rw [List.append_nil] at hlast
      have hfirst (cs : List Char) := twoDigits?_padded cs (show hours < 100 by omega)
      cases west
      · simp [readOffset?, Zone.text, Zone.offset, hfirst, hlast, after?_self, hhours, hminutes]
      · simp [readOffset?, Zone.text, Zone.offset, hfirst, hlast, after?_self, hhours, hminutes]

theorem zone_text (z : Zone) : ∃ c rest, z.text = c :: rest ∧ c ≠ '.' ∧ c ≠ ',' ∧
    c.isDigit = false := by
  cases z with
  | utc => exact ⟨_, _, rfl, by decide, by decide, by decide⟩
  | apart west hours minutes => cases west <;> exact ⟨_, _, rfl, by decide, by decide, by decide⟩

/-- The fraction of a stamp is taken off in front of the zone. -/
theorem takeNanos_stamp {s : Stamp} (h : ∀ c ∈ s.fraction, c.isDigit = true) :
    takeNanos (s.fractionText ++ s.zone.text) = (s.nanos, s.zone.text) := by
  obtain ⟨z, rest, hzone, hpoint, hcomma, hz⟩ := zone_text s.zone
  rw [Stamp.fractionText, Stamp.nanos, hzone]
  cases hds : s.fraction with
  | nil =>
    have hnone : ¬(z = '.' ∨ z = ',') := by simp [hpoint, hcomma]
    cases rest with
    | nil => rfl
    | cons d rest =>
      rw [if_pos rfl, List.nil_append, takeNanos, if_neg fun hmark => hnone hmark.1]
      rfl
  | cons d ds =>
    rw [hds] at h
    have hmark : (if s.comma then ',' else '.') = '.' ∨ (if s.comma then ',' else '.') = ',' := by
      cases s.comma
      · exact .inl rfl
      · exact .inr rfl
    have htake : ((d :: ds) ++ z :: rest).takeWhile Char.isDigit = d :: ds := by
      rw [List.takeWhile_append_of_pos h]
      simp [hz]
    have hdrop : ((d :: ds) ++ z :: rest).dropWhile Char.isDigit = z :: rest := by
      rw [List.dropWhile_append_of_pos h]
      simp [hz]
    rw [List.cons_append] at htake hdrop
    rw [if_neg (List.cons_ne_nil d ds), List.cons_append, List.cons_append, takeNanos,
      if_pos ⟨hmark, h d List.mem_cons_self⟩]
    simp only [htake, hdrop, nanos_digits h]

/-! ### The whole text -/

/-- What is read is the text of a stamp, and is read as its moment. -/
theorem exists_stamp {cs : List Char} {m : Moment} (h : read? cs = some m) :
    ∃ s : Stamp, s.Exists ∧ s.text = cs ∧ s.moment = m := by
  simp only [read?, Option.bind_eq_bind, Option.bind_eq_some_iff, Prod.exists, fourDigits?_iff,
    after?_iff, twoDigits?_iff] at h
  obtain ⟨year, _, ⟨hyear, rfl⟩, _, rfl, month, _, ⟨-, rfl⟩, _, rfl, day, _, ⟨-, rfl⟩, _, rfl,
    hour, _, hhour, _, rfl, minute, _, ⟨-, rfl⟩, _, rfl, second, more, ⟨-, rfl⟩, h⟩ := h
  obtain ⟨short, hshort, rfl⟩ := oneOrTwoDigits?_some hhour
  cases hnanos : takeNanos more with
  | mk nanos rest =>
    obtain ⟨ds, comma, hds, rfl, rfl⟩ := takeNanos_some hnanos
    rw [hnanos] at h
    simp only [readOffset?_iff] at h
    obtain ⟨_, ⟨zone, hzone, rfl, rfl⟩, h⟩ := h
    split at h
    · next hcivil =>
      obtain ⟨hdate, hh, hm, hs⟩ := hcivil
      refine ⟨⟨⟨⟨year, month, day⟩, hour, minute, second⟩, short, ds, comma, zone⟩,
        ⟨⟨hdate, hh, hm, hs⟩, ?_, hshort, hds, hzone⟩, rfl, Option.some.inj h⟩
      exact ⟨Int.natCast_nonneg year, show (year : Int) ≤ 9999 by omega⟩
    · cases h

/-- The text of a stamp is read as its moment. -/
theorem read?_stamp {s : Stamp} (h : s.Exists) : read? s.text = some s.moment := by
  obtain ⟨hcivil, hyear, hshort, hfraction, hzone⟩ := h
  have hyearNat : ((s.civil.date.year.toNat : Nat) : Int) = s.civil.date.year := by omega
  have hhour : ∀ rest, oneOrTwoDigits? (s.hourText ++ ':' :: rest) =
      some (s.civil.hour, ':' :: rest) := by
    intro rest
    have hday := hcivil.hour
    unfold Stamp.hourText
    cases hs : s.shortHour with
    | false => exact oneOrTwoDigits?_padded _ (by omega)
    | true => exact oneOrTwoDigits?_short (hshort hs) rest
  have hoffset : readOffset? s.zone.text = some s.zone.offset :=
    readOffset?_iff.mpr ⟨s.zone, hzone, rfl, rfl⟩
  have hh := hcivil.hour
  have hm := hcivil.minute
  have hs := hcivil.second
  simp only [read?, Stamp.text, fourDigits?_padded _ (show s.civil.date.year.toNat < 10000 by omega),
    after?_self, twoDigits?_padded _ hcivil.month_lt, twoDigits?_padded _ hcivil.day_lt, hhour,
    twoDigits?_padded _ (show s.civil.minute < 100 by omega),
    twoDigits?_padded _ (show s.civil.second < 100 by omega), takeNanos_stamp hfraction, hoffset,
    hyearNat, Option.bind_eq_bind, Option.bind_some, hcivil.date, hh, hm, hs, and_self, ↓reduceIte]
  rfl

/-- **The times that are read are the texts of stamps**, read as the moments of the stamps. -/
theorem read?_iff {cs : List Char} {m : Moment} :
    read? cs = some m ↔ ∃ s : Stamp, s.Exists ∧ s.text = cs ∧ s.moment = m := by
  constructor
  · exact exists_stamp
  · rintro ⟨s, hs, rfl, rfl⟩
    exact read?_stamp hs

end Moment

/-! ### Instants -/

/-- The nanoseconds from the start of 1970 to a stamp, when its date is day number `day`. -/
def Stamp.instant (s : Stamp) (day : Int) : Int :=
  (day * 86400 + s.civil.hour * 3600 + s.civil.minute * 60 + s.civil.second - s.zone.offset) *
    1000000000 + s.nanos

/-- A text denotes the instant of the stamp it spells, in nanoseconds since 1970 began. -/
def Denotes (cs : List Char) (n : Int) : Prop :=
  ∃ (s : Stamp) (day : Int), s.Exists ∧ s.text = cs ∧ Date.Counts day s.civil.date ∧
    s.instant day = n

theorem Stamp.nanos_lt {s : Stamp} (h : ∀ c ∈ s.fraction, c.isDigit = true) :
    s.nanos < 1000000000 := by
  have hlt := Digits.naive_lt h
  unfold Stamp.nanos
  rw [Nat.div_lt_iff_lt_mul (by omega)]
  omega

theorem Stamp.instant_eq {s : Stamp} {day : Int} (h : Date.Counts day s.civil.date) :
    s.instant day = s.moment.seconds * 1000000000 + s.moment.nanos := by
  have hdays := h.toDays_eq.2
  simp only [instant, moment, Civil.toSeconds]
  omega

/-- **What a text denotes is the instant of the moment it is read as.** -/
theorem denotes_iff {cs : List Char} {n : Int} :
    Denotes cs n ↔ ∃ m, Moment.read? cs = some m ∧ m.nanos < 1000000000 ∧
      m.seconds * 1000000000 + m.nanos = n := by
  constructor
  · rintro ⟨s, day, hs, rfl, hday, rfl⟩
    exact ⟨s.moment, Moment.read?_stamp hs, Stamp.nanos_lt hs.fraction, (s.instant_eq hday).symm⟩
  · rintro ⟨m, hread, -, rfl⟩
    obtain ⟨s, hs, htext, rfl⟩ := Moment.exists_stamp hread
    have hday : Date.Counts (s.civil.date.toDays - Civil.epochDays) s.civil.date :=
      Date.counts_iff.mpr ⟨hs.civil.date, by omega⟩
    exact ⟨s, _, hs, htext, hday, s.instant_eq hday⟩

end PaymentGateway
