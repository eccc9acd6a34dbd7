/-
# Integers in writing

A signed number in writing is a sign or none, and what it is about. An integer of 64 bits is
spelled by one digit or more behind a sign, and the texts that are read as integers are those
(`readSigned_iff`): reading from left to right, up to a bound, finds the value of the digits
if it is within the bound, because the value of fewer digits is not larger.

Key definitions: `Sign`, `Word`, `Integer.Spells`.
Key theorems: `Decimal.takeSign_text`, `Decimal.exists_sign`, `Integer.scan_iff`,
`Integer.readSigned_iff`.
-/
import PaymentGateway.Number.Integer
import PaymentGateway.Proofs.Number.Digits

namespace PaymentGateway

/-- The sign before a number in writing. -/
inductive Sign where
  | absent | plus | minus
  deriving Repr, DecidableEq

namespace Sign

/-- The sign in writing. -/
def text : Sign → List Char
  | absent => []
  | plus => ['+']
  | minus => ['-']

/-- The number of a magnitude with this sign. -/
def apply : Sign → Nat → Int
  | minus, n => -(n : Int)
  | _, n => n

end Sign

/-- An integer of 64 bits with sign. -/
def Word (i : Int) : Prop := -9223372036854775808 ≤ i ∧ i ≤ 9223372036854775807

instance (i : Int) : Decidable (Word i) :=
  inferInstanceAs (Decidable (-9223372036854775808 ≤ i ∧ i ≤ 9223372036854775807))

/-- The largest magnitude of 64 bits with this sign: with a minus, one more. -/
def Sign.limit : Sign → Nat
  | minus => 9223372036854775808
  | _ => 9223372036854775807

theorem Sign.word_apply_iff {sign : Sign} {n : Nat} : Word (sign.apply n) ↔ n ≤ sign.limit := by
  cases sign <;> simp only [Word, apply, limit] <;> omega

/-- Testing the magnitude is testing whether the number has 64 bits. -/
theorem Sign.check_eq {ε : Type} (sign : Sign) (n : Nat) (fault : ε) :
    (if decide (sign = .minus) = true then
        if 9223372036854775808 < n then Except.error fault else .ok (-(n : Int))
      else if 9223372036854775808 ≤ n then .error fault else .ok (n : Int)) =
      if Word (sign.apply n) then .ok (sign.apply n) else .error fault := by
  rw [ite_congr (propext word_apply_iff) (fun _ => rfl) fun _ => rfl]
  by_cases hn : n ≤ sign.limit
  · rw [if_pos hn]
    cases sign with
    | minus => exact if_neg (Nat.not_lt.mpr hn)
    | absent | plus => exact if_neg (Nat.not_le.mpr (Nat.lt_succ_of_le hn))
  · rw [if_neg hn]
    cases sign with
    | minus => exact if_pos (Nat.not_le.mp hn)
    | absent | plus => exact if_pos (Nat.not_le.mp hn)

namespace Decimal

/-- A text that starts with no sign. -/
def Unsigned (cs : List Char) : Prop := cs.head? ≠ some '-' ∧ cs.head? ≠ some '+'

theorem takeSign_unsigned {cs : List Char} (h : Unsigned cs) : takeSign cs = (false, cs) := by
  unfold takeSign
  split
  · exact absurd rfl h.1
  · exact absurd rfl h.2
  · rfl

/-- **The sign comes off the front.** -/
theorem takeSign_text (sign : Sign) {body : List Char} (h : Unsigned body) :
    takeSign (sign.text ++ body) = (decide (sign = .minus), body) := by
  cases sign with
  | absent => exact takeSign_unsigned h
  | plus => rfl
  | minus => rfl

/-- What is taken for a sign is one. -/
theorem exists_sign (cs : List Char) : ∃ (sign : Sign) (body : List Char),
    cs = sign.text ++ body ∧ takeSign cs = (decide (sign = .minus), body) := by
  unfold takeSign
  split
  · exact ⟨.minus, _, rfl, rfl⟩
  · exact ⟨.plus, _, rfl, rfl⟩
  · exact ⟨.absent, _, rfl, rfl⟩

theorem unsigned_of_digit {d : Char} (h : d.isDigit = true) (cs : List Char) :
    Unsigned (d :: cs) := by
  constructor <;> rintro ⟨rfl⟩ <;> cases h

end Decimal

namespace Integer

/-- A text spells an integer: one digit or more behind a sign, and a value of 64 bits. -/
def Spells (s : String) (i : Int) : Prop :=
  ∃ (sign : Sign) (ds : List Char), ds ≠ [] ∧ (∀ c ∈ ds, c.isDigit = true) ∧
    s.toList = sign.text ++ ds ∧ i = sign.apply (Digits.naive ds) ∧ Word i

/-! ### Reading up to a bound -/

variable {bound n m : Nat}

/-- The value of digits read onto a value. -/
theorem foldl_digit (n : Nat) (c : Char) (cs : List Char) :
    (c :: cs).foldl (fun n c => 10 * n + Digits.digit c) n =
      cs.foldl (fun n c => 10 * n + Digits.digit c) (n * 10 + Digits.digit c) := by
  rw [List.foldl_cons, Nat.mul_comm 10 n]

theorem le_foldl_digits (cs : List Char) (n : Nat) :
    n ≤ cs.foldl (fun n c => 10 * n + Digits.digit c) n := by
  rw [Digits.foldl_digits]
  have hpos : 0 < Nat.pow 10 cs.length := Nat.pow_pos (by decide)
  calc n ≤ n * Nat.pow 10 cs.length := Nat.le_mul_of_pos_right n hpos
    _ ≤ n * Nat.pow 10 cs.length + Digits.naive cs := Nat.le_add_right _ _

/-- **Reading digits up to a bound** gives their value, if it is within the bound. -/
theorem scan_iff : ∀ (cs : List Char) {n : Nat}, n ≤ bound →
    (scan bound n cs = .ok m ↔ (∀ c ∈ cs, c.isDigit = true) ∧
      m = cs.foldl (fun n c => 10 * n + Digits.digit c) n ∧ m ≤ bound)
  | [], n, hn => by
    constructor
    · rintro ⟨⟩
      exact ⟨by simp, rfl, hn⟩
    · rintro ⟨-, rfl, -⟩
      rfl
  | c :: cs, n, hn => by
    rw [foldl_digit, List.forall_mem_cons]
    unfold scan
    split
    · next hc =>
      simp only [hc, true_and]
      split
      · next hover =>
        -- the value only grows with the digits that follow
        have hle := le_foldl_digits cs (n * 10 + Digits.digit c)
        constructor
        · rintro ⟨⟩
        · rintro ⟨-, rfl, hm⟩
          omega
      · next hfits => exact scan_iff cs (Nat.le_of_not_lt hfits)
    · next hc => simp [hc]

theorem readUnsigned_iff {bits : Nat} {cs : List Char} : readUnsigned bits cs = .ok m ↔
    cs ≠ [] ∧ (∀ c ∈ cs, c.isDigit = true) ∧ m = Digits.naive cs ∧ m ≤ Nat.pow 2 bits - 1 := by
  cases cs with
  | nil => simp [readUnsigned]
  | cons c cs =>
    rw [readUnsigned, scan_iff _ (Nat.zero_le _)]
    · simp [Digits.naive]
    · simp

/-- Once the digits are read, the value has to fit into 64 bits. -/
theorem readSigned_eq {s : String} {sign : Sign} {ds : List Char}
    (h : Decimal.takeSign s.toList = (decide (sign = .minus), ds)) :
    readSigned s = (readUnsigned 64 ds).bind fun n =>
      if Word (sign.apply n) then .ok (sign.apply n) else .error .range := by
  have hlimit : Nat.pow 2 63 = 9223372036854775808 := by decide
  unfold readSigned
  rw [h]
  refine congrArg (readUnsigned 64 ds).bind (funext fun n => ?_)
  rw [hlimit]
  exact sign.check_eq n Fault.range

/-- **The texts that are read as integers** are those that spell one. -/
theorem readSigned_iff {s : String} {i : Int} : readSigned s = .ok i ↔ Spells s i := by
  constructor
  · intro h
    obtain ⟨sign, ds, hs, htake⟩ := Decimal.exists_sign s.toList
    rw [readSigned_eq htake] at h
    cases hread : readUnsigned 64 ds with
    | error f =>
      rw [hread] at h
      cases h
    | ok n =>
      obtain ⟨hne, hds, rfl, -⟩ := readUnsigned_iff.mp hread
      rw [hread, Except.bind] at h
      split at h
      · next hword =>
        cases h
        exact ⟨sign, ds, hne, hds, hs, rfl, hword⟩
      · cases h
  · rintro ⟨sign, ds, hne, hds, hs, rfl, hword⟩
    obtain ⟨d, rest, rfl⟩ := List.exists_cons_of_ne_nil hne
    have hunsigned := Decimal.unsigned_of_digit (hds d List.mem_cons_self) rest
    have htake := Decimal.takeSign_text sign hunsigned
    have hbound : Digits.naive (d :: rest) ≤ Nat.pow 2 64 - 1 := by
      have hsmall := Sign.word_apply_iff.mp hword
      have hlarge : sign.limit ≤ Nat.pow 2 64 - 1 := by cases sign <;> decide
      exact Nat.le_trans hsmall hlarge
    have hread := readUnsigned_iff.mpr ⟨hne, hds, rfl, hbound⟩
    rw [← hs] at htake
    rw [readSigned_eq htake, hread, Except.bind, if_pos hword]

end Integer
end PaymentGateway
