/-
# Doubles as exact numbers

A finite double is the rational number `± m · 2 ^ e` (`Binary64.value?`), and it is a double
of the format if `m` has 53 bits and `e` lies between -1074 and 971 (`Binary64.IsDouble`).
The half-up rounding is the floor of the value and one half (`roundHalfUp_eq_floor`), and no
double below `2 ^ 63` is rounded up to it (`floor_lt_iff`): with a fraction left, a
significand of 53 bits is far below, and without one nothing is rounded.

Key definitions: `Binary64.dyadic`, `Binary64.value?`, `Binary64.IsDouble`.
Key theorems: `Binary64.roundHalfUp_eq_floor`, `Binary64.floor_lt_iff`.
-/
import PaymentGateway.Number.Binary64
import Mathlib.Algebra.Order.Floor.Ring
import Mathlib.Algebra.Order.Field.Power
import Mathlib.Data.Rat.Floor
import Mathlib.Tactic.FieldSimp
import Mathlib.Tactic.Linarith
import Mathlib.Tactic.NormNum

namespace PaymentGateway
namespace Binary64

/-! ### Values -/

/-- The number `m · 2 ^ e`. -/
def dyadic (m : Nat) (e : Int) : ℚ := m * 2 ^ e

/-- The number a double stands for; infinities and not-a-number stand for none. -/
def value? : Binary64 → Option ℚ
  | finite false m e => some (dyadic m e)
  | finite true m e => some (-dyadic m e)
  | _ => none

/-- The double is one of the format: 53 bits, and an exponent in its range. -/
def IsDouble : Binary64 → Prop
  | finite _ m e => m < 2 ^ 53 ∧ -1074 ≤ e ∧ e ≤ 971
  | _ => True

instance : DecidablePred IsDouble
  | .finite _ m e => inferInstanceAs (Decidable (m < 2 ^ 53 ∧ -1074 ≤ e ∧ e ≤ 971))
  | .infinite _ => isTrue trivial
  | .nan => isTrue trivial

theorem dyadic_nonneg (m : Nat) (e : Int) : 0 ≤ dyadic m e := by
  unfold dyadic
  positivity

theorem dyadic_eq_zero_iff {m : Nat} {e : Int} : dyadic m e = 0 ↔ m = 0 := by
  have hpow : (2 : ℚ) ^ e ≠ 0 := by positivity
  simp [dyadic, hpow]

theorem dyadic_of_nonneg {m : Nat} {e : Int} (he : 0 ≤ e) :
    dyadic m e = ((m * 2 ^ e.toNat : Nat) : ℚ) := by
  obtain ⟨k, rfl⟩ := Int.eq_ofNat_of_zero_le he
  simp [dyadic]

theorem dyadic_of_neg {m : Nat} {e : Int} (he : e < 0) :
    dyadic m e = (m : ℚ) / (2 ^ (-e).toNat : Nat) := by
  obtain ⟨k, hk⟩ := Int.eq_ofNat_of_zero_le (a := -e) (by omega)
  obtain rfl : e = -(k : Int) := by omega
  simp [dyadic, div_eq_mul_inv]

/-! ### Rounding half up -/

/-- A whole number is not rounded. -/
theorem floor_whole (n : Nat) : ⌊(n : ℚ) + 1 / 2⌋ = n := by
  have hhalf : ⌊(1 / 2 : ℚ)⌋ = 0 := by norm_num
  rw [Int.floor_natCast_add, hhalf, Int.add_zero]

/-- **The half-up rounding is the floor of the value and one half.** -/
theorem roundHalfUp_eq_floor (m : Nat) (e : Int) :
    (roundHalfUp m e : Int) = ⌊dyadic m e + 1 / 2⌋ := by
  unfold roundHalfUp
  split
  · rename_i he
    rw [dyadic_of_nonneg he, floor_whole]
    rfl
  · rename_i he
    have hsum : dyadic m e + 1 / 2 =
        ((2 * m + 2 ^ (-e).toNat : Nat) : ℚ) / (2 * 2 ^ (-e).toNat : Nat) := by
      rw [dyadic_of_neg (by omega)]
      push_cast
      field_simp
    rw [hsum, Rat.floor_natCast_div_natCast]
    rfl

/-- **No double below a whole bound of 53 bits or more is rounded up to it.** -/
theorem floor_lt_iff {m : Nat} (hm : m < 2 ^ 53) (e : Int) {b : Int} (hb : 2 ^ 53 ≤ b) :
    ⌊dyadic m e + 1 / 2⌋ < b ↔ dyadic m e < b := by
  rcases lt_or_ge e 0 with he | he
  · -- a fraction is left, so that both are far below
    have hle : dyadic m e ≤ m := by
      rw [dyadic_of_neg he]
      exact div_le_self (by positivity) (by exact_mod_cast Nat.one_le_two_pow)
    have hlt : (m : ℚ) + 1 ≤ b := by
      have hmb : (m : Int) + 1 ≤ b := by omega
      exact_mod_cast hmb
    constructor
    · intro _
      linarith
    · intro _
      rw [Int.floor_lt]
      linarith
  · rw [← roundHalfUp_eq_floor, dyadic_of_nonneg he, roundHalfUp, if_pos he]
    exact_mod_cast Iff.rfl

end Binary64
end PaymentGateway
