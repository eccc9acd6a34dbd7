/-
# Numerals and the numbers they spell

A numeral of JSON has a sign or none, whole digits without a zero in front, perhaps a
fraction, and perhaps an exponent (`Numeral`); it spells a rational number (`Numeral.value`).
Every numeral belongs to the grammar that the reader follows (`isNumeral_text`), and its
decimal is that number as long as its exponent stays below ten thousand (`value_read`),
where the reader of decimals stops counting.

Key definitions: `Json.Exponent`, `Json.Numeral`, `Json.Numeral.text`, `Json.Numeral.value`.
Key theorems: `Json.Numeral.isNumeral_text`, `Json.Numeral.value_read`.
-/
import PaymentGateway.Proofs.Json.RoundTrip
import PaymentGateway.Proofs.Number.Digits
import PaymentGateway.Proofs.Number.Nearest

namespace PaymentGateway
namespace Json

/-- The sign before the digits of an exponent. -/
inductive ExponentSign where
  | absent | plus | minus
  deriving DecidableEq

/-- The characters of a sign. -/
def ExponentSign.text : ExponentSign → List Char
  | absent => []
  | plus => ['+']
  | minus => ['-']

/-- The exponent of a numeral: a mark, perhaps a sign, and digits. -/
structure Exponent where
  mark : Char
  sign : ExponentSign
  digits : List Char
  isMark : mark = 'e' ∨ mark = 'E'
  isSome : digits ≠ []
  decimal : digits.all Char.isDigit = true

namespace Exponent

def text (e : Exponent) : List Char := e.mark :: (e.sign.text ++ e.digits)

/-- The power of ten that an exponent spells. -/
def value (e : Exponent) : Int :=
  match e.sign with
  | .minus => -(Digits.naive e.digits : Int)
  | _ => Digits.naive e.digits

end Exponent

/-- A numeral. The fraction is empty when there is no point. -/
structure Numeral where
  negative : Bool
  whole : List Char
  fraction : List Char
  exponent : Option Exponent
  decimal : whole.all Char.isDigit = true
  noLeadingZero : whole = ['0'] ∨ ∃ d ds, whole = d :: ds ∧ d ≠ '0'
  fractionDecimal : fraction.all Char.isDigit = true

namespace Numeral

/-- The characters of a sign. -/
def signText (n : Numeral) : List Char := if n.negative then ['-'] else []

/-- The point and the digits after it. -/
def fractionText (n : Numeral) : List Char := if n.fraction = [] then [] else '.' :: n.fraction

def exponentText (n : Numeral) : List Char := (n.exponent.map Exponent.text).getD []

/-- The characters of a numeral. -/
def text (n : Numeral) : List Char :=
  n.signText ++ (n.whole ++ (n.fractionText ++ n.exponentText))

/-- The power of ten by which the digits are scaled. -/
def power (n : Numeral) : Int := (n.exponent.map Exponent.value).getD 0

/-- **The number that a numeral spells.** -/
def value (n : Numeral) : ℚ :=
  (if n.negative then -1 else 1) *
    ((Digits.naive n.whole + Digits.naive n.fraction / 10 ^ n.fraction.length) * 10 ^ n.power)

end Numeral

/-! ### The grammar of the reader -/

namespace Reader.NumberPart

/-- The parts in which further digits change nothing. -/
theorem foldlM_digits {p : NumberPart} (hp : p = whole ∨ p = fraction ∨ p = exponent) :
    ∀ {ds : List Char}, ds.all Char.isDigit = true → ds.foldlM next? p = some p
  | [], _ => rfl
  | d :: ds, h => by
    rw [List.all_cons, Bool.and_eq_true] at h
    have hstep : p.next? d = some p := by
      obtain rfl | rfl | rfl := hp <;> simp only [next?, h.1, ↓reduceIte]
    rw [List.foldlM_cons, hstep]
    exact foldlM_digits hp h.2

/-- Digits of which the first leads to a part in which digits change nothing. -/
theorem foldlM_first {p q : NumberPart} (hq : q = whole ∨ q = fraction ∨ q = exponent)
    (hp : ∀ c : Char, c.isDigit = true → p.next? c = some q) {ds : List Char} (hne : ds ≠ [])
    (h : ds.all Char.isDigit = true) : ds.foldlM next? p = some q := by
  obtain ⟨d, ds, rfl⟩ := List.exists_cons_of_ne_nil hne
  rw [List.all_cons, Bool.and_eq_true] at h
  rw [List.foldlM_cons, hp d h.1]
  exact foldlM_digits hq h.2

end Reader.NumberPart

theorem Exponent.foldlM_text (e : Exponent) {p : Reader.NumberPart}
    (hp : p = .zero ∨ p = .whole ∨ p = .fraction) :
    e.text.foldlM Reader.NumberPart.next? p = some .exponent := by
  have hmark : p.next? e.mark = some .mark := by
    obtain hm | hm := e.isMark <;> rw [hm] <;> obtain rfl | rfl | rfl := hp <;> decide
  have hdigits : ∀ q, (q = .mark ∨ q = .markSign) →
      e.digits.foldlM Reader.NumberPart.next? q = some .exponent := by
    intro q hq
    refine Reader.NumberPart.foldlM_first (.inr (.inr rfl)) (fun c hc => ?_) e.isSome e.decimal
    obtain rfl | rfl := hq <;> simp only [Reader.NumberPart.next?, hc, ↓reduceIte]
  rw [text, List.foldlM_cons, hmark]
  show (e.sign.text ++ e.digits).foldlM Reader.NumberPart.next? .mark = _
  rw [List.foldlM_append]
  cases e.sign with
  | absent => exact hdigits _ (.inl rfl)
  | plus => exact hdigits _ (.inr rfl)
  | minus => exact hdigits _ (.inr rfl)

namespace Numeral

open Reader.NumberPart (next?)

variable (n : Numeral)

/-- The whole digits end in a part that may end. -/
theorem foldlM_whole : ∃ p, n.whole.foldlM next? .sign = some p ∧ (p = .zero ∨ p = .whole) := by
  obtain hzero | ⟨d, ds, hwhole, hd⟩ := n.noLeadingZero
  · rw [hzero]
    exact ⟨.zero, rfl, .inl rfl⟩
  · have hdigits := n.decimal
    rw [hwhole, List.all_cons, Bool.and_eq_true] at hdigits
    have hfirst : next? .sign d = some .whole := by
      simp only [next?, if_neg hd, hdigits.1, ↓reduceIte]
    refine ⟨.whole, ?_, .inr rfl⟩
    rw [hwhole, List.foldlM_cons, hfirst]
    exact Reader.NumberPart.foldlM_digits (.inl rfl) hdigits.2

theorem foldlM_fraction {p : Reader.NumberPart} (hp : p = .zero ∨ p = .whole) :
    ∃ q, n.fractionText.foldlM next? p = some q ∧ (q = .zero ∨ q = .whole ∨ q = .fraction) := by
  unfold fractionText
  split
  · exact ⟨p, rfl, hp.imp_right .inl⟩
  · rename_i hne
    have hpoint : p.next? '.' = some .point := by obtain rfl | rfl := hp <;> decide
    refine ⟨.fraction, ?_, .inr (.inr rfl)⟩
    rw [List.foldlM_cons, hpoint]
    refine Reader.NumberPart.foldlM_first (.inr (.inl rfl)) (fun c hc => ?_) hne n.fractionDecimal
    simp only [next?, hc, ↓reduceIte]

theorem foldlM_exponent {p : Reader.NumberPart} (hp : p = .zero ∨ p = .whole ∨ p = .fraction) :
    ∃ q, n.exponentText.foldlM next? p = some q ∧ q.mayEnd = true := by
  unfold exponentText
  cases n.exponent with
  | none =>
    refine ⟨p, rfl, ?_⟩
    obtain rfl | rfl | rfl := hp <;> rfl
  | some e => exact ⟨.exponent, e.foldlM_text hp, rfl⟩

theorem whole_cons : ∃ d ds, n.whole = d :: ds ∧ d.isDigit = true := by
  have hcons : ∃ d ds, n.whole = d :: ds := by
    obtain h | ⟨d, ds, h, -⟩ := n.noLeadingZero
    · exact ⟨'0', [], h⟩
    · exact ⟨d, ds, h⟩
  obtain ⟨d, ds, h⟩ := hcons
  have hdigits := n.decimal
  rw [h, List.all_cons, Bool.and_eq_true] at hdigits
  exact ⟨d, ds, h, hdigits.1⟩

/-- **A numeral belongs to the grammar that the reader follows.** -/
theorem isNumeral_text : isNumeral n.text = true := by
  obtain ⟨p, hwhole, hp⟩ := n.foldlM_whole
  obtain ⟨q, hfraction, hq⟩ := n.foldlM_fraction hp
  obtain ⟨last, hexponent, hend⟩ := n.foldlM_exponent hq
  have hbody : (n.whole ++ (n.fractionText ++ n.exponentText)).foldlM next? .sign = some last := by
    rw [List.foldlM_append, hwhole]
    show (n.fractionText ++ n.exponentText).foldlM next? p = some last
    rw [List.foldlM_append, hfraction]
    exact hexponent
  obtain ⟨d, ds, hcons, hd⟩ := n.whole_cons
  unfold text signText
  split
  · show (((n.whole ++ _).foldlM next? .sign).any (·.mayEnd)) = true
    rw [hbody]
    exact hend
  · have hminus : d ≠ '-' := by
      rintro rfl
      exact absurd hd (by decide)
    rw [hcons, List.cons_append, List.foldlM_cons] at hbody
    rw [hcons, List.nil_append, List.cons_append, isNumeral, Reader.NumberPart.start?,
      if_neg hminus]
    rw [show (next? .sign d).bind _ = some last from hbody]
    exact hend

end Numeral

/-! ### The decimal of a numeral -/

/-- Digits end where something else begins. -/
theorem span_digits {ds rest : List Char} (h : ds.all Char.isDigit = true)
    (hrest : ∀ c ∈ rest.head?, c.isDigit = false) :
    (ds ++ rest).takeWhile Char.isDigit = ds ∧ (ds ++ rest).dropWhile Char.isDigit = rest := by
  have hds := List.all_eq_true.mp h
  rw [List.takeWhile_append_of_pos hds, List.dropWhile_append_of_pos hds]
  cases rest with
  | nil => simp
  | cons c cs => simp [hrest c rfl]

theorem takeSign_digit {d : Char} (h : d.isDigit = true) (cs : List Char) :
    Decimal.takeSign (d :: cs) = (false, d :: cs) := by
  unfold Decimal.takeSign
  split
  · rename_i heq
    cases heq
    exact absurd h (by decide)
  · rename_i heq
    cases heq
    exact absurd h (by decide)
  · rfl

/-- The digits of an exponent are counted as they are up to ten thousand. -/
theorem foldl_exponent : ∀ (ds : List Char) (k : Nat),
    ds.foldl (fun n c => 10 * n + Digits.digit c) k < 10000 →
    ds.foldl (fun n c => if n < 10000 then 10 * n + Digits.digit c else n) k =
      ds.foldl (fun n c => 10 * n + Digits.digit c) k
  | [], _, _ => rfl
  | d :: ds, k, h => by
    have hle : 10 * k + Digits.digit d ≤
        ds.foldl (fun n c => 10 * n + Digits.digit c) (10 * k + Digits.digit d) := by
      rw [Digits.foldl_digits]
      exact Nat.le_add_right_of_le (Nat.le_mul_of_pos_right _ (Nat.pow_pos (by omega)))
    rw [List.foldl_cons] at h
    have hk : k < 10000 := by omega
    rw [List.foldl_cons, List.foldl_cons, if_pos hk]
    exact foldl_exponent ds _ h

theorem exponentValue_eq {ds : List Char} (h : Digits.naive ds < 10000) :
    Decimal.exponentValue ds = Digits.naive ds :=
  foldl_exponent ds 0 h

theorem Exponent.readExponent_text (e : Exponent) (h : |e.value| < 10000) :
    Decimal.readExponent e.text = e.value := by
  obtain ⟨d, ds, hcons⟩ := List.exists_cons_of_ne_nil e.isSome
  have hd : d.isDigit = true :=
    List.all_eq_true.mp e.decimal d (by rw [hcons]; exact List.mem_cons_self)
  have hspan : e.digits.takeWhile Char.isDigit = e.digits := by
    have hend : ∀ c ∈ ([] : List Char).head?, c.isDigit = false := by simp
    have hall := (span_digits e.decimal hend).1
    rwa [List.append_nil] at hall
  have hbound : Digits.naive e.digits < 10000 := by
    rw [abs_lt] at h
    unfold value at h
    split at h <;> omega
  have hcount := exponentValue_eq hbound
  unfold value
  simp only [text, Decimal.readExponent, if_pos e.isMark]
  cases e.sign with
  | absent =>
    have hsign : Decimal.takeSign (ExponentSign.absent.text ++ e.digits) = (false, e.digits) := by
      rw [hcons]
      exact takeSign_digit hd ds
    simp only [hsign, hspan, hcount, Bool.false_eq_true, ↓reduceIte]
  | plus =>
    have hsign : Decimal.takeSign (ExponentSign.plus.text ++ e.digits) = (false, e.digits) := rfl
    simp only [hsign, hspan, hcount, Bool.false_eq_true, ↓reduceIte]
  | minus =>
    have hsign : Decimal.takeSign (ExponentSign.minus.text ++ e.digits) = (true, e.digits) := rfl
    simp only [hsign, hspan, hcount, ↓reduceIte]

namespace Numeral

variable (n : Numeral)

theorem readExponent_text (h : |n.power| < 10000) :
    Decimal.readExponent n.exponentText = n.power := by
  unfold exponentText power at *
  cases he : n.exponent with
  | none => rfl
  | some e =>
    rw [he] at h
    exact e.readExponent_text h

/-- An exponent begins with its mark, which is neither a digit nor a point. -/
theorem exponentText_head : ∀ c ∈ n.exponentText.head?, c.isDigit = false ∧ c ≠ '.' := by
  unfold exponentText
  cases n.exponent with
  | none => simp
  | some e =>
    intro c hc
    obtain rfl : e.mark = c := by simpa [Exponent.text] using hc
    obtain hm | hm := e.isMark <;> rw [hm] <;> decide

theorem takeFraction_text :
    Decimal.takeFraction (n.fractionText ++ n.exponentText) = (n.fraction, n.exponentText) := by
  have hhead := n.exponentText_head
  unfold fractionText
  split
  · rename_i hnone
    rw [hnone, List.nil_append]
    unfold Decimal.takeFraction
    split
    · rename_i heq
      rw [heq] at hhead
      exact absurd rfl (hhead '.' rfl).2
    · rfl
  · obtain ⟨htake, hdrop⟩ := span_digits n.fractionDecimal fun c hc => (hhead c hc).1
    show ((n.fraction ++ n.exponentText).takeWhile Char.isDigit,
      (n.fraction ++ n.exponentText).dropWhile Char.isDigit) = _
    rw [htake, hdrop]

/-- What follows the whole digits begins with no digit. -/
theorem rest_head : ∀ c ∈ (n.fractionText ++ n.exponentText).head?, c.isDigit = false := by
  unfold fractionText
  split
  · exact fun c hc => (n.exponentText_head c hc).1
  · intro c hc
    obtain rfl : '.' = c := by simpa using hc
    decide

theorem takeSign_text : Decimal.takeSign n.text =
    (n.negative, n.whole ++ (n.fractionText ++ n.exponentText)) := by
  unfold text signText
  cases hn : n.negative with
  | true => rfl
  | false =>
    obtain ⟨d, ds, hcons, hd⟩ := n.whole_cons
    rw [hcons]
    exact takeSign_digit hd _

theorem read_text (h : |n.power| < 10000) : Decimal.read n.text =
    ⟨n.negative, Digits.naive (n.whole ++ n.fraction), n.power - n.fraction.length⟩ := by
  obtain ⟨htake, hdrop⟩ := span_digits n.decimal n.rest_head
  simp only [Decimal.read, n.takeSign_text, htake, hdrop, n.takeFraction_text,
    n.readExponent_text h, Digits.value_eq_naive]

/-- **The decimal of a numeral is the number it spells.** -/
theorem value_read (h : |n.power| < 10000) : (Decimal.read n.text).value = n.value := by
  rw [n.read_text h, Decimal.value, value]
  congr 1
  have hpow : (10 : ℚ) ^ n.fraction.length ≠ 0 := by positivity
  simp only [Digits.naive_append, Nat.pow_eq, zpow_sub₀ (by norm_num : (10 : ℚ) ≠ 0),
    zpow_natCast]
  push_cast
  field_simp

end Numeral
end Json
end PaymentGateway
