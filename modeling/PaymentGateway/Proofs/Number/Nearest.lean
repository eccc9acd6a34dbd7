/-
# Ratios and decimals that are doubles

The nearest double of a ratio has the exponent of its binade (`exponentFor_binade`), so what
the rounding gives is a double of the format (`isDouble_read`), and a ratio that is a dyadic
number of 53 bits already is not rounded at all (`nearest_exact`). A decimal whose value is a
whole number up to `2 ^ 53` is therefore read exactly (`ofDecimal_exact`), however many digits
and whatever exponent it is written with: the shortcuts for exponents out of all proportion
are never taken.

Key definitions: `Binary64.Binade`, `Decimal.value`.
Key theorems: `Binary64.exponentFor_binade`, `Binary64.nearest_exact`,
`Binary64.ofDecimal_exact`, `Binary64.isDouble_read`.
-/
import PaymentGateway.Proofs.Number.Dyadic

namespace PaymentGateway

namespace Binary64

/-! ### The exponent of a ratio -/

/-- The exponent at which a number has 53 binary digits before the point, or fewer at the
least exponent. -/
structure Binade (x : ℚ) (e : Int) : Prop where
  least : -1074 ≤ e
  lt : x < dyadic (2 ^ 53) e
  ge : e = -1074 ∨ dyadic (2 ^ 52) e ≤ x

theorem dyadic_two_pow (k : Nat) (e : Int) : dyadic (2 ^ k) e = 2 ^ (k + e) := by
  rw [dyadic, zpow_add₀ two_ne_zero]
  norm_cast

theorem dyadic_shift (m k : Nat) (e : Int) : dyadic (m * 2 ^ k) e = dyadic m (e + k) := by
  rw [dyadic, dyadic, zpow_add₀ two_ne_zero, zpow_natCast]
  push_cast
  ring

/-- The binades follow each other. -/
theorem dyadic_next (e : Int) : dyadic (2 ^ 53) e = dyadic (2 ^ 52) (e + 1) :=
  dyadic_shift (2 ^ 52) 1 e

theorem dyadic_mono (m : Nat) {e e' : Int} (h : e ≤ e') : dyadic m e ≤ dyadic m e' := by
  unfold dyadic
  gcongr
  norm_num

theorem scaled_div (n : Nat) {d : Nat} (hd : 0 < d) (e : Int) :
    0 < (scaled n d e).2 ∧
      ((scaled n d e).1 : ℚ) / (scaled n d e).2 = (n : ℚ) / d / 2 ^ e := by
  unfold scaled
  split
  · rename_i he
    obtain ⟨k, rfl⟩ := Int.eq_ofNat_of_zero_le he
    refine ⟨Nat.mul_pos hd (Nat.pow_pos (by omega)), ?_⟩
    simp [div_div]
  · rename_i he
    obtain ⟨k, hk⟩ := Int.eq_ofNat_of_zero_le (a := -e) (by omega)
    obtain rfl : e = -(k : Int) := by omega
    refine ⟨hd, ?_⟩
    simp [div_mul_eq_mul_div]

/-- A multiple of the scaled denominator stands to the numerator as the dyadic number to the
ratio. -/
theorem mul_scaled_le_iff (n : Nat) {d : Nat} (hd : 0 < d) (k : Nat) (e : Int) :
    k * (scaled n d e).2 ≤ (scaled n d e).1 ↔ dyadic k e ≤ (n : ℚ) / d := by
  obtain ⟨hpos, hdiv⟩ := scaled_div n hd e
  have hpos' : (0 : ℚ) < (scaled n d e).2 := by exact_mod_cast hpos
  rw [dyadic, ← le_div_iff₀ (by positivity), ← hdiv, le_div_iff₀ hpos']
  exact_mod_cast Iff.rfl

theorem scaled_eq_mul {n d : Nat} (hd : 0 < d) {k : Nat} {e : Int}
    (h : (n : ℚ) / d = dyadic k e) : (scaled n d e).1 = k * (scaled n d e).2 := by
  obtain ⟨hpos, hdiv⟩ := scaled_div n hd e
  have hpos' : ((scaled n d e).2 : ℚ) ≠ 0 := by exact_mod_cast hpos.ne'
  have hpow : (2 : ℚ) ^ e ≠ 0 := by positivity
  rw [h, dyadic, mul_div_cancel_right₀ _ hpow, div_eq_iff hpos'] at hdiv
  exact_mod_cast hdiv

/-- The logarithms of its parts leave two binades for a ratio. -/
theorem ratio_bracket {n d : Nat} (hn : 0 < n) (hd : 0 < d) :
    (2 : ℚ) ^ ((n.log2 : Int) - d.log2 - 1) < (n : ℚ) / d ∧
      (n : ℚ) / d < 2 ^ ((n.log2 : Int) - d.log2 + 1) := by
  have hdq : (0 : ℚ) < d := by exact_mod_cast hd
  have hnq : (0 : ℚ) < n := by exact_mod_cast hn
  have hn1 : (2 : ℚ) ^ n.log2 ≤ n := by exact_mod_cast Nat.log2_self_le (by omega)
  have hn2 : (n : ℚ) < 2 ^ (n.log2 + 1) := by exact_mod_cast Nat.lt_log2_self
  have hd1 : (2 : ℚ) ^ d.log2 ≤ d := by exact_mod_cast Nat.log2_self_le (by omega)
  have hd2 : (d : ℚ) < 2 ^ (d.log2 + 1) := by exact_mod_cast Nat.lt_log2_self
  have hlow : (2 : ℚ) ^ ((n.log2 : Int) - d.log2 - 1) = 2 ^ n.log2 / 2 ^ (d.log2 + 1) := by
    rw [sub_sub, zpow_sub₀ two_ne_zero, zpow_natCast]
    norm_cast
  have hhigh : (2 : ℚ) ^ ((n.log2 : Int) - d.log2 + 1) = 2 ^ (n.log2 + 1) / 2 ^ d.log2 := by
    rw [sub_add_eq_add_sub, zpow_sub₀ two_ne_zero, zpow_natCast]
    norm_cast
  rw [hlow, hhigh]
  constructor
  · rw [div_lt_div_iff₀ (by positivity) hdq]
    calc (2 : ℚ) ^ n.log2 * d ≤ n * d := by gcongr
      _ < n * 2 ^ (d.log2 + 1) := by gcongr
  · rw [div_lt_div_iff₀ hdq (by positivity)]
    calc (n : ℚ) * 2 ^ d.log2 ≤ n * d := by gcongr
      _ < 2 ^ (n.log2 + 1) * d := by gcongr

/-- **The exponent chosen for a ratio is that of its binade.** -/
theorem exponentFor_binade {n d : Nat} (hn : 0 < n) (hd : 0 < d) :
    Binade ((n : ℚ) / d) (exponentFor n d) := by
  obtain ⟨hlow, hhigh⟩ := ratio_bracket hn hd
  have hchoice := mul_scaled_le_iff n hd (2 ^ 53) ((n.log2 : Int) - d.log2 - 53)
  -- the exponent before the bound from below
  obtain ⟨e, he, hge, hlt⟩ : ∃ e, exponentFor n d = max e (-1074) ∧
      dyadic (2 ^ 52) e ≤ (n : ℚ) / d ∧ (n : ℚ) / d < dyadic (2 ^ 53) e := by
    refine ⟨_, rfl, ?_⟩
    split
    · rename_i h
      have htop : (53 : Nat) + ((n.log2 : Int) - d.log2 - 53 + 1) = n.log2 - d.log2 + 1 := by omega
      rw [← dyadic_next, dyadic_two_pow 53 (_ + 1), htop]
      exact ⟨hchoice.mp h, hhigh⟩
    · rename_i h
      have hbottom : (52 : Nat) + ((n.log2 : Int) - d.log2 - 53) = n.log2 - d.log2 - 1 := by omega
      rw [dyadic_two_pow 52, hbottom]
      exact ⟨hlow.le, not_le.mp fun h' => h (hchoice.mpr h')⟩
  rw [he]
  rcases le_total e (-1074) with h | h
  · rw [max_eq_right h]
    exact ⟨le_rfl, hlt.trans_le (dyadic_mono _ h), .inl rfl⟩
  · rw [max_eq_left h]
    exact ⟨h, hlt, .inr hge⟩

/-! ### Rounding a ratio -/

end Binary64

theorem roundDiv_mul (k : Nat) {d : Nat} (hd : 0 < d) : roundDiv (k * d) d = k := by
  simp [roundDiv, Nat.mul_div_cancel k hd, hd]

theorem roundDiv_le {n d k : Nat} (h : n < k * d) : roundDiv n d ≤ k := by
  have hdiv : n / d < k := Nat.div_lt_of_lt_mul (by rwa [Nat.mul_comm])
  simp only [roundDiv]
  split
  · omega
  · split <;> omega

namespace Binary64

/-- The significand of the nearest double has 53 bits. -/
theorem nearest_bounds (n : Nat) {d : Nat} (hd : 0 < d) :
    (nearest n d).1 < 2 ^ 53 ∧ -1074 ≤ (nearest n d).2 := by
  unfold nearest
  split
  · decide
  · rename_i hn
    have hbinade := exponentFor_binade (Nat.pos_of_ne_zero hn) hd
    have hround : roundDiv (scaled n d (exponentFor n d)).1 (scaled n d (exponentFor n d)).2 ≤
        2 ^ 53 := by
      refine roundDiv_le (not_le.mp fun h => ?_)
      exact absurd hbinade.lt (not_lt.mpr ((mul_scaled_le_iff n hd _ _).mp h))
    have hleast := hbinade.least
    simp only
    split
    · exact ⟨by show 2 ^ 52 < 2 ^ 53; omega, by omega⟩
    · rename_i hne
      exact ⟨lt_of_le_of_ne hround hne, hleast⟩

/-- The nearest double is the rounded quotient at the exponent of the ratio. -/
theorem dyadic_nearest {n : Nat} (hn : 0 < n) (d : Nat) :
    dyadic (nearest n d).1 (nearest n d).2 =
      dyadic (roundDiv (scaled n d (exponentFor n d)).1 (scaled n d (exponentFor n d)).2)
        (exponentFor n d) := by
  rw [nearest, if_neg hn.ne']
  simp only
  split
  · rename_i h
    rw [h]
    exact (dyadic_next _).symm
  · rfl

/-- A dyadic number of 53 bits is whole at the exponent of its binade. -/
theorem Binade.whole {m : Nat} {k e : Int} (h : Binade (dyadic m k) e) (hm : m ≤ 2 ^ 53)
    (hk : -1074 ≤ k) : ∃ q, dyadic m k = dyadic q e := by
  rcases le_or_gt e k with he | he
  · obtain ⟨j, hj⟩ := Int.eq_ofNat_of_zero_le (Int.sub_nonneg_of_le he)
    refine ⟨m * 2 ^ j, ?_⟩
    rw [dyadic_shift, ← hj, add_sub_cancel]
  · -- it fills its binade, and is the first number of the next one
    have hle : dyadic m k ≤ dyadic (2 ^ 53) k := by
      unfold dyadic
      gcongr
    have hge := h.ge.resolve_left (by omega)
    have hpow := hge.trans hle
    rw [dyadic_two_pow, dyadic_two_pow, zpow_le_zpow_iff_right₀ (by norm_num)] at hpow
    obtain rfl : e = k + 1 := by omega
    rw [dyadic_next] at hle
    exact ⟨2 ^ 52, le_antisymm hle hge⟩

/-- **A ratio that has 53 bits is not rounded.** -/
theorem nearest_exact {n d m : Nat} {k : Int} (hn : 0 < n) (hd : 0 < d) (hm : m ≤ 2 ^ 53)
    (hk : -1074 ≤ k) (h : (n : ℚ) / d = dyadic m k) :
    dyadic (nearest n d).1 (nearest n d).2 = dyadic m k := by
  have hbinade := exponentFor_binade hn hd
  rw [h] at hbinade
  obtain ⟨q, hq⟩ := hbinade.whole hm hk
  have hscaled := scaled_eq_mul hd (h.trans hq)
  rw [dyadic_nearest hn, hscaled, roundDiv_mul _ (scaled_div n hd _).1, hq]

theorem isDouble_ofRatio {negative : Bool} {n d : Nat} (hd : 0 < d) {x : Binary64}
    (h : ofRatio negative n d = some x) : x.IsDouble := by
  obtain ⟨hlt, hge⟩ := nearest_bounds n hd
  simp only [ofRatio] at h
  split at h
  · cases h
  · rename_i hle
    cases h
    exact ⟨hlt, hge, not_lt.mp hle⟩

/-- A ratio that is a whole number up to `2 ^ 53` is read exactly. -/
theorem ofRatio_exact {n d k : Nat} (hn : 0 < n) (hd : 0 < d) (hk : 0 < k) (hk' : k ≤ 2 ^ 53)
    (h : (n : ℚ) / d = k) : ∃ x, ofRatio false n d = some x ∧ x.value? = some k := by
  have hwhole : dyadic k 0 = k := by simp [dyadic]
  have hexact := nearest_exact hn hd hk' (by omega : -1074 ≤ (0 : Int)) (h.trans hwhole.symm)
  rw [hwhole] at hexact
  have hm : (nearest n d).1 ≠ 0 := by
    intro h0
    rw [dyadic_eq_zero_iff.mpr h0] at hexact
    exact absurd hexact (by exact_mod_cast hk.ne)
  -- the exponent of a number up to `2 ^ 53` is not above 53
  have hexponent : (nearest n d).2 ≤ 53 := by
    have hle : (2 : ℚ) ^ (nearest n d).2 ≤ 2 ^ (53 : Int) :=
      calc (2 : ℚ) ^ (nearest n d).2
          ≤ (nearest n d).1 * 2 ^ (nearest n d).2 :=
            le_mul_of_one_le_left (by positivity) (by exact_mod_cast Nat.pos_of_ne_zero hm)
        _ = k := hexact
        _ ≤ 2 ^ (53 : Int) := by exact_mod_cast hk'
    exact (zpow_le_zpow_iff_right₀ (by norm_num)).mp hle
  refine ⟨.finite false (nearest n d).1 (nearest n d).2, ?_, congrArg some hexact⟩
  simp only [ofRatio]
  exact if_neg (by omega)

end Binary64

/-! ### Decimals -/

namespace Decimal

/-- The number a decimal stands for. -/
def value (d : Decimal) : ℚ := (if d.negative then -1 else 1) * (d.digits * 10 ^ d.exponent)

end Decimal

namespace Binary64

theorem isDouble_zero (negative : Bool) : (finite negative 0 0).IsDouble := by
  show 0 < 2 ^ 53 ∧ -1074 ≤ (0 : Int) ∧ (0 : Int) ≤ 971
  decide

/-- **Every number that is read is a double.** -/
theorem isDouble_read {numeral : List Char} {x : Binary64} (h : read numeral = some x) :
    x.IsDouble := by
  unfold read ofDecimal at h
  split at h
  · cases h
    exact isDouble_zero _
  split at h
  · cases h
  split at h
  · cases h
    exact isDouble_zero _
  split at h
  · exact isDouble_ofRatio Nat.one_pos h
  · exact isDouble_ofRatio (Nat.pow_pos (by omega)) h

/-- A decimal with an exponent far above the range is beyond `2 ^ 53`. -/
theorem decimal_large {digits : Nat} {e : Int} (h0 : 0 < digits) (he : 400 < e) :
    (2 : ℚ) ^ 53 < digits * 10 ^ e := by
  have hdigits : (1 : ℚ) ≤ digits := by exact_mod_cast h0
  calc (2 : ℚ) ^ 53 < 10 ^ (53 : Int) := by norm_num
    _ ≤ 10 ^ e := zpow_le_zpow_right₀ (by norm_num) (by omega)
    _ ≤ digits * 10 ^ e := le_mul_of_one_le_left (by positivity) hdigits

/-- A decimal with an exponent far below the range is below one. -/
theorem decimal_small {digits : Nat} {e : Int} (he : e + digits.log2 + 400 < 0) :
    (digits : ℚ) * 10 ^ e < 1 := by
  have hdigits : (digits : ℚ) < 10 ^ (digits.log2 + 1 : Int) := by
    calc (digits : ℚ) < 2 ^ (digits.log2 + 1) := by exact_mod_cast Nat.lt_log2_self
      _ ≤ 10 ^ (digits.log2 + 1) := by gcongr; norm_num
      _ = 10 ^ (digits.log2 + 1 : Int) := by norm_cast
  calc (digits : ℚ) * 10 ^ e < 10 ^ (digits.log2 + 1 : Int) * 10 ^ e := by gcongr
    _ = 10 ^ (digits.log2 + 1 + e : Int) := (zpow_add₀ (by norm_num) _ _).symm
    _ ≤ 10 ^ (0 : Int) := zpow_le_zpow_right₀ (by norm_num) (by omega)
    _ = 1 := zpow_zero _

/-- **A decimal that is a whole number up to `2 ^ 53` is read exactly.** -/
theorem ofDecimal_exact {d : Decimal} {k : Nat} (hk : 0 < k) (hk' : k ≤ 2 ^ 53)
    (h : d.value = k) : ∃ x, ofDecimal d = some x ∧ x.value? = some k := by
  have hkq : (0 : ℚ) < k := by exact_mod_cast hk
  obtain ⟨negative, digits, e⟩ := d
  simp only [Decimal.value] at h
  cases negative with
  | true =>
    have hnonneg : (0 : ℚ) ≤ digits * 10 ^ e := by positivity
    simp only [if_true] at h
    linarith
  | false =>
    simp only [Bool.false_eq_true, if_false, one_mul] at h
    have hdigits : 0 < digits := by
      rcases Nat.eq_zero_or_pos digits with rfl | hpos
      · rw [Nat.cast_zero, zero_mul] at h
        exact absurd h hkq.ne
      · exact hpos
    have hlarge : ¬ 400 < e := by
      intro he
      have hlt := decimal_large hdigits he
      rw [h] at hlt
      exact absurd hlt (not_lt.mpr (by exact_mod_cast hk'))
    have hsmall : ¬ e + digits.log2 + 400 < 0 := by
      intro he
      have hlt := decimal_small he
      rw [h] at hlt
      exact absurd hlt (not_lt.mpr (by exact_mod_cast hk))
    unfold ofDecimal
    simp only [hdigits.ne', if_false, hlarge, hsmall]
    split
    · rename_i he
      obtain ⟨j, rfl⟩ := Int.eq_ofNat_of_zero_le he
      refine ofRatio_exact (Nat.mul_pos hdigits (Nat.pow_pos (by omega))) Nat.one_pos hk hk' ?_
      rw [← h]
      simp
    · rename_i he
      obtain ⟨j, hj⟩ := Int.eq_ofNat_of_zero_le (a := -e) (by omega)
      obtain rfl : e = -(j : Int) := by omega
      refine ofRatio_exact hdigits (Nat.pow_pos (by omega)) hk hk' ?_
      rw [← h]
      simp [div_eq_mul_inv]

end Binary64
end PaymentGateway
