/-
# Moments survive their text

The text of a moment in universal time, of a year with four digits, is read back
as the moment (`read?_text`): to the nanosecond, although zeros at the end of the
fraction are not written. The date and the time of day stand in fields of fixed
width, which are read back one by one; what remains is that the civil time of an
instant exists and counts back to the instant (`Civil.toSeconds_ofSeconds`).

Key theorems: `Civil.toSeconds_ofSeconds`, `Moment.takeNanos_fractionText`,
`Moment.read?_text`.
-/
import PaymentGateway.Proofs.Number.Digits
import PaymentGateway.Proofs.Time.Calendar
import PaymentGateway.Time.Moment

namespace PaymentGateway

/-! ### Civil time -/

namespace Civil

/-- A time of day on a date that exists. -/
structure Exists (c : Civil) : Prop where
  date : c.date.isValid = true
  hour : c.hour < 24
  minute : c.minute < 60
  second : c.second < 60

theorem exists_ofSeconds (s : Int) : (ofSeconds s).Exists where
  date := Date.isValid_ofDays _
  hour := by
    simp only [ofSeconds]
    omega
  minute := by
    simp only [ofSeconds]
    omega
  second := by
    simp only [ofSeconds]
    omega

/-- **The civil time of an instant counts back to the instant.** -/
theorem toSeconds_ofSeconds (s : Int) : (ofSeconds s).toSeconds = s := by
  simp only [toSeconds, ofSeconds, Date.toDays_ofDays]
  omega

theorem daysIn_le (y : Int) (month : Nat) : Calendar.daysIn y month ≤ 31 := by
  have hall : ∀ leap, ∀ l ∈ Calendar.monthLengths leap, l ≤ 31 := by decide
  cases month with
  | zero => exact Nat.zero_le 31
  | succ m =>
    rw [Calendar.daysIn, List.getD_eq_getElem?_getD]
    cases hget : (Calendar.monthLengths (Calendar.isLeap y))[m]? with
    | none => exact Nat.zero_le 31
    | some l => exact hall _ l (List.mem_of_getElem? hget)

variable {c : Civil}

theorem Exists.month_lt (h : c.Exists) : c.date.month < 100 := by
  have hdate := h.date
  simp only [Date.isValid, Bool.and_eq_true, decide_eq_true_eq] at hdate
  omega

theorem Exists.day_lt (h : c.Exists) : c.date.day < 100 := by
  have hdate := h.date
  have hle := daysIn_le c.date.year c.date.month
  simp only [Date.isValid, Bool.and_eq_true, decide_eq_true_eq] at hdate
  omega

end Civil

/-! ### Fields of digits -/

namespace Moment

theorem padded_two {n : Nat} (h : n < 100) :
    ∃ a b, Digits.padded 2 n = [a, b] ∧ a.isDigit = true ∧ b.isDigit = true ∧
      Digits.digit a * 10 + Digits.digit b = n := by
  have hlength : (Digits.padded 2 n).length = 2 := Digits.length_padded (by omega) h
  have hvalue := Digits.naive_padded 2 n
  have hdigit : ∀ c ∈ Digits.padded 2 n, c.isDigit = true := fun _ => Digits.isDigit_of_mem_padded
  match hds : Digits.padded 2 n, hlength with
  | [a, b], _ =>
    rw [hds] at hvalue hdigit
    simp only [Digits.naive, List.foldl_cons, List.foldl_nil] at hvalue
    exact ⟨a, b, rfl, hdigit a (by simp), hdigit b (by simp), by omega⟩

theorem padded_four {n : Nat} (h : n < 10000) :
    ∃ a b c d, Digits.padded 4 n = [a, b, c, d] ∧ (∀ x ∈ [a, b, c, d], x.isDigit = true) ∧
      (Digits.digit a * 10 + Digits.digit b) * 100 +
        (Digits.digit c * 10 + Digits.digit d) = n := by
  have hlength : (Digits.padded 4 n).length = 4 := Digits.length_padded (by omega) h
  have hvalue := Digits.naive_padded 4 n
  have hdigit : ∀ c ∈ Digits.padded 4 n, c.isDigit = true := fun _ => Digits.isDigit_of_mem_padded
  match hds : Digits.padded 4 n, hlength with
  | [a, b, c, d], _ =>
    rw [hds] at hvalue hdigit
    simp only [Digits.naive, List.foldl_cons, List.foldl_nil] at hvalue
    exact ⟨a, b, c, d, rfl, hdigit, by omega⟩

section Fields

variable (rest : List Char)

theorem twoDigits?_padded {n : Nat} (h : n < 100) :
    twoDigits? (Digits.padded 2 n ++ rest) = some (n, rest) := by
  obtain ⟨a, b, hab, ha, hb, hn⟩ := padded_two h
  rw [hab, List.cons_append, List.cons_append, List.nil_append, twoDigits?, if_pos ⟨ha, hb⟩, hn]

theorem oneOrTwoDigits?_padded {n : Nat} (h : n < 100) :
    oneOrTwoDigits? (Digits.padded 2 n ++ rest) = some (n, rest) := by
  obtain ⟨a, b, hab, ha, hb, hn⟩ := padded_two h
  rw [hab, List.cons_append, List.cons_append, List.nil_append, oneOrTwoDigits?, if_pos ha,
    if_pos hb, hn]

theorem fourDigits?_padded {n : Nat} (h : n < 10000) :
    fourDigits? (Digits.padded 4 n ++ rest) = some (n, rest) := by
  obtain ⟨a, b, c, d, hds, hdigit, hn⟩ := padded_four h
  have hab : a.isDigit = true ∧ b.isDigit = true := ⟨hdigit a (by simp), hdigit b (by simp)⟩
  have hcd : c.isDigit = true ∧ d.isDigit = true := ⟨hdigit c (by simp), hdigit d (by simp)⟩
  simp only [fourDigits?, hds, List.cons_append, List.nil_append, twoDigits?, hab, hcd, and_self,
    ↓reduceIte, Option.bind_eq_bind, Option.bind_some, Option.pure_def, hn]

end Fields

/-! ### The fraction -/

/-- A digit string without the zeros at its end. -/
def trimmed (ds : List Char) : List Char := (ds.reverse.dropWhile (· == '0')).reverse

theorem trimmed_append (ds : List Char) : ∃ k, ds = trimmed ds ++ List.replicate k '0' := by
  have hzeros : ∀ c ∈ ds.reverse.takeWhile (· == '0'), c = '0' := by
    intro c hc
    simpa using List.all_eq_true.mp List.all_takeWhile c hc
  refine ⟨(ds.reverse.takeWhile (· == '0')).length, ?_⟩
  calc ds = (ds.reverse.takeWhile (· == '0') ++ ds.reverse.dropWhile (· == '0')).reverse := by
        rw [List.takeWhile_append_dropWhile, List.reverse_reverse]
    _ = trimmed ds ++ (ds.reverse.takeWhile (· == '0')).reverse := by
        rw [List.reverse_append, trimmed]
    _ = trimmed ds ++ List.replicate (ds.reverse.takeWhile (· == '0')).length '0' := by
        rw [List.eq_replicate_of_mem hzeros, List.reverse_replicate, List.length_replicate]

/-- Digits after a point are read as so many digits of nine, when no digit
follows them. -/
theorem takeNanos_digits {ds : List Char} (hne : ds ≠ []) (hlength : ds.length ≤ 9)
    (hdigit : ∀ c ∈ ds, c.isDigit = true) {z : Char} (hz : z.isDigit = false) :
    takeNanos ('.' :: (ds ++ [z])) = (Digits.naive ds * Nat.pow 10 (9 - ds.length), [z]) := by
  have hspan : (ds ++ [z]).takeWhile Char.isDigit = ds ∧
      (ds ++ [z]).dropWhile Char.isDigit = [z] := by
    rw [List.takeWhile_append_of_pos hdigit, List.dropWhile_append_of_pos hdigit]
    simp [hz]
  have htake : ds.take 9 = ds := List.take_of_length_le hlength
  cases ds with
  | nil => exact absurd rfl hne
  | cons d ds =>
    rw [List.cons_append] at hspan ⊢
    rw [takeNanos, if_pos ⟨.inl rfl, hdigit d List.mem_cons_self⟩]
    simp only [hspan, htake, Digits.value_eq_naive]

/-- **The fraction is read back to the nanosecond**, when no digit follows it. -/
theorem takeNanos_fractionText {n : Nat} (hn : n < 1000000000) {z : Char} (hz : z.isDigit = false) :
    takeNanos (fractionText n ++ [z]) = (n, [z]) := by
  rw [fractionText]
  by_cases h0 : n = 0
  · rw [if_pos h0, h0]
    rfl
  · have hvalue := Digits.naive_padded 9 n
    have hlength : (Digits.padded 9 n).length = 9 := Digits.length_padded (by omega) hn
    have hdigit : ∀ c ∈ Digits.padded 9 n, c.isDigit = true := fun _ => Digits.isDigit_of_mem_padded
    obtain ⟨k, hk⟩ := trimmed_append (Digits.padded 9 n)
    -- the zeros that are not written are those the reader fills in
    rw [hk, Digits.naive_append, Digits.naive_zeros, List.length_replicate, Nat.add_zero] at hvalue
    rw [hk, List.length_append, List.length_replicate] at hlength
    have hne : trimmed (Digits.padded 9 n) ≠ [] := by
      intro hnil
      rw [hnil] at hvalue
      simp [Digits.naive] at hvalue
      omega
    have hread := takeNanos_digits hne (by omega)
      (fun c hc => hdigit c (hk ▸ List.mem_append_left _ hc)) hz
    have hfill : 9 - (trimmed (Digits.padded 9 n)).length = k := by omega
    rw [hfill, hvalue] at hread
    rw [if_neg h0]
    exact hread

/-! ### The whole text -/

theorem after?_self (c : Char) (rest : List Char) : after? c (c :: rest) = some rest := if_pos rfl

/-- A civil time, a fraction and `Z` are read back field by field. -/
theorem read?_civil {c : Civil} (hc : c.Exists) (hyear : 0 ≤ c.date.year ∧ c.date.year ≤ 9999)
    {nanos : Nat} (hnanos : nanos < 1000000000) :
    read? (c.text ++ (fractionText nanos ++ ['Z'])) = some ⟨c.toSeconds, nanos, 0⟩ := by
  have hyearText : Civil.yearText c.date.year = Digits.padded 4 c.date.year.natAbs := by
    rw [Civil.yearText, if_neg (by omega)]
  have hyearNat : ((c.date.year.natAbs : Nat) : Int) = c.date.year := by omega
  have hfour : c.date.year.natAbs < 10000 := by omega
  have hhour := hc.hour
  have hminute := hc.minute
  have hsecond := hc.second
  simp only [read?, Civil.text, hyearText, List.append_assoc, List.cons_append,
    fourDigits?_padded _ hfour, after?_self, twoDigits?_padded _ hc.month_lt,
    twoDigits?_padded _ hc.day_lt, oneOrTwoDigits?_padded _ (show c.hour < 100 by omega),
    twoDigits?_padded _ (show c.minute < 100 by omega),
    twoDigits?_padded _ (show c.second < 100 by omega),
    takeNanos_fractionText hnanos (show 'Z'.isDigit = false by decide), readOffset?, hyearNat,
    Option.bind_eq_bind, Option.bind_some, hc.date, hhour, hminute, hsecond, and_self, ↓reduceIte,
    Int.sub_zero]

/-- **The text of a moment in universal time is read back as the moment.** -/
theorem read?_text {m : Moment} (hoffset : m.offset = 0) (hnanos : m.nanos < 1000000000)
    (hyear : 0 ≤ m.civil.date.year ∧ m.civil.date.year ≤ 9999) : read? m.text = some m := by
  have hback : m.civil.toSeconds = m.seconds := by
    rw [civil, Civil.toSeconds_ofSeconds, hoffset, Int.add_zero]
  have hexists : m.civil.Exists := Civil.exists_ofSeconds _
  have hz : offsetText m.offset = ['Z'] := by
    rw [hoffset]
    rfl
  rw [text, hz, List.append_assoc, read?_civil hexists hyear hnanos, hback, ← hoffset]

/-! ### The characters of a text -/

/-- A digit, or a mark that stands between or after digits. -/
def isTimeChar (c : Char) : Bool := c.isDigit || c ∈ ['-', 'T', ':', '.', '+', 'Z']

theorem padded_all (w n : Nat) : (Digits.padded w n).all isTimeChar = true := by
  rw [List.all_eq_true]
  intro c hc
  simp [isTimeChar, Digits.isDigit_of_mem_padded hc]

theorem fractionText_all (n : Nat) : (fractionText n).all isTimeChar = true := by
  unfold fractionText
  split
  · rfl
  · obtain ⟨k, hk⟩ := trimmed_append (Digits.padded 9 n)
    have hall := padded_all 9 n
    rw [hk, List.all_append, Bool.and_eq_true] at hall
    exact hall.1

theorem offsetText_all (offset : Int) : (offsetText offset).all isTimeChar = true := by
  unfold offsetText
  split
  · rfl
  · simp only [List.all_cons, List.all_append, padded_all]
    split <;> rfl

theorem civil_all (c : Civil) : c.text.all isTimeChar = true := by
  have hyear : (Civil.yearText c.date.year).all isTimeChar = true := by
    unfold Civil.yearText
    split
    · exact padded_all _ _
    · exact padded_all _ _
  simp only [Civil.text, List.all_append, List.all_cons, hyear, padded_all]
  rfl

/-- The text of a moment is made of digits and marks. -/
theorem text_all (m : Moment) : m.text.all isTimeChar = true := by
  simp only [text, List.all_append, civil_all, fractionText_all, offsetText_all, Bool.and_self]

end Moment
end PaymentGateway
