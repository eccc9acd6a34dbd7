/-
# Digit strings and the numbers they spell

`Digits.value` is the plain base-ten value, halves or not (`value_eq_naive`), and
the digits of a number, padded to a width that holds it, are as many digits and
spell the number (`naive_padded`); so every digit string is the padded text of its
value (`padded_naive`). Two integers have different texts.

Key theorems: `Digits.naive_append`, `Digits.value_eq_naive`,
`Digits.naive_padded`, `Digits.length_padded`, `Digits.text_injective`,
`Digits.padded_naive`.
-/
import PaymentGateway.Number.Decimal

namespace PaymentGateway
namespace Digits

/-! ### The value of a digit string -/

theorem foldl_digits : ∀ (ds : List Char) (n : Nat),
    ds.foldl (fun n c => 10 * n + digit c) n = n * Nat.pow 10 ds.length + naive ds
  | [], n => by simp [naive]
  | d :: ds, n => by
    have hn := foldl_digits ds (10 * n + digit d)
    have hd := foldl_digits ds (10 * 0 + digit d)
    have hpow : Nat.pow 10 (d :: ds).length = Nat.pow 10 ds.length * 10 := rfl
    simp only [naive, List.foldl_cons] at hn hd ⊢
    rw [hn, hd, hpow]
    grind

theorem naive_append (xs ys : List Char) :
    naive (xs ++ ys) = naive xs * Nat.pow 10 ys.length + naive ys := by
  rw [naive, List.foldl_append]
  exact foldl_digits ys (naive xs)

theorem naive_zeros (k : Nat) : naive (List.replicate k '0') = 0 := by
  induction k with
  | zero => rfl
  | succ k ih =>
    rw [List.replicate_succ', naive_append, ih]
    rfl

/-- **The value of a long digit string, found by halves, is its value.** -/
theorem value_eq_naive (ds : List Char) : value ds = naive ds := by
  fun_induction value ds with
  | case1 ds _ => rfl
  | case2 ds _ ihl ihr =>
    rw [ihl, ihr]
    have hsplit := naive_append (ds.take (ds.length / 2)) (ds.drop (ds.length / 2))
    rw [List.take_append_drop, List.length_drop] at hsplit
    exact hsplit.symm

/-! ### The digits of a number -/

theorem naive_ofNat (n : Nat) : naive (ofNat n) = n :=
  Nat.ofDigitChars_ten_toDigits

theorem isDigit_of_mem_padded {w n : Nat} {c : Char} (h : c ∈ padded w n) : c.isDigit = true := by
  rw [padded, List.mem_append] at h
  obtain hzero | hdigit := h
  · rw [List.eq_of_mem_replicate hzero]
    rfl
  · exact Nat.isDigit_of_mem_toDigits (by omega) (by omega) hdigit

theorem naive_padded (w n : Nat) : naive (padded w n) = n := by
  rw [padded, naive_append, naive_zeros, naive_ofNat, Nat.zero_mul, Nat.zero_add]

theorem length_padded {w n : Nat} (hw : 0 < w) (h : n < Nat.pow 10 w) :
    (padded w n).length = w := by
  have hle : (ofNat n).length ≤ w := (Nat.length_toDigits_le_iff (by omega) hw).mpr h
  rw [padded, List.length_append, List.length_replicate]
  omega

theorem minus_notMem_ofNat (n : Nat) : '-' ∉ ofNat n := by
  intro hmem
  cases Nat.isDigit_of_mem_toDigits (by omega) (by omega) hmem

/-- **An integer is told by its decimal text.** -/
theorem text_injective {i j : Int} (h : text i = text j) : i = j := by
  have habs {m n : Nat} (hdigits : ofNat m = ofNat n) : m = n := by
    rw [← naive_ofNat m, hdigits, naive_ofNat]
  have hlist : ofInt i = ofInt j := by
    rw [← String.toList_ofList (l := ofInt i), ← String.toList_ofList (l := ofInt j)]
    exact congrArg String.toList h
  unfold ofInt at hlist
  split at hlist <;> split at hlist
  · have hdigits := habs (List.cons.inj hlist).2
    omega
  · exact absurd (hlist ▸ List.mem_cons_self) (minus_notMem_ofNat j.natAbs)
  · exact absurd (hlist ▸ List.mem_cons_self) (minus_notMem_ofNat i.natAbs)
  · have hdigits := habs hlist
    omega

/-! ### Digit strings of one length -/

theorem digit_range {c : Char} (h : c.isDigit = true) : 48 ≤ c.toNat ∧ c.toNat ≤ 57 :=
  Char.isDigit_iff_toNat.mp h

theorem naive_lt : ∀ {ds : List Char}, (∀ c ∈ ds, c.isDigit = true) →
    naive ds < Nat.pow 10 ds.length
  | [], _ => by decide
  | d :: ds, h => by
    obtain ⟨hd, hds⟩ := List.forall_mem_cons.mp h
    have hrest := naive_lt hds
    have hfirst : naive [d] + 1 ≤ 10 := by
      have hrange := digit_range hd
      simp only [naive, List.foldl_cons, List.foldl_nil, digit]
      omega
    calc naive (d :: ds) = naive [d] * Nat.pow 10 ds.length + naive ds := naive_append [d] ds
      _ < naive [d] * Nat.pow 10 ds.length + Nat.pow 10 ds.length := by omega
      _ = (naive [d] + 1) * Nat.pow 10 ds.length := by rw [Nat.succ_mul]
      _ ≤ 10 * Nat.pow 10 ds.length := Nat.mul_le_mul_right _ hfirst
      _ = Nat.pow 10 (d :: ds).length := Nat.pow_succ'.symm

/-- Taking digits off the end divides the value. -/
theorem naive_append_div (xs : List Char) {ys : List Char} (h : ∀ c ∈ ys, c.isDigit = true) :
    naive (xs ++ ys) / Nat.pow 10 ys.length = naive xs := by
  have hlt := naive_lt h
  rw [naive_append, Nat.mul_comm, Nat.mul_add_div (by omega), Nat.div_eq_of_lt hlt, Nat.add_zero]

/-- Digit strings of one length are told apart by their value. -/
theorem naive_injective : ∀ {ds es : List Char}, ds.length = es.length →
    (∀ c ∈ ds, c.isDigit = true) → (∀ c ∈ es, c.isDigit = true) → naive ds = naive es → ds = es
  | [], [], _, _, _, _ => rfl
  | d :: ds, e :: es, hlength, hds, hes, h => by
    obtain ⟨hd, hds⟩ := List.forall_mem_cons.mp hds
    obtain ⟨he, hes⟩ := List.forall_mem_cons.mp hes
    have hsame : ds.length = es.length := Nat.succ.inj hlength
    have hfirst : naive [d] = naive [e] := by
      rw [← naive_append_div [d] hds, ← naive_append_div [e] hes, ← hsame]
      exact congrArg (· / Nat.pow 10 ds.length) h
    have hrest : naive ds = naive es := by
      have hsplit := naive_append [d] ds
      have hsplit' := naive_append [e] es
      rw [List.singleton_append, h, hfirst, hsame] at hsplit
      exact Nat.add_left_cancel (hsplit.symm.trans hsplit')
    have hchar : d = e := by
      have hrange := digit_range hd
      have hrange' := digit_range he
      simp only [naive, List.foldl_cons, List.foldl_nil, digit] at hfirst
      exact Char.toNat_inj.mp (by omega)
    rw [hchar, naive_injective hsame hds hes hrest]

/-- **A digit string is its value, padded to its length.** -/
theorem padded_naive {ds : List Char} (hne : ds ≠ []) (h : ∀ c ∈ ds, c.isDigit = true) :
    padded ds.length (naive ds) = ds := by
  apply naive_injective
  · exact length_padded (List.length_pos_iff.mpr hne) (naive_lt h)
  · exact fun _ => isDigit_of_mem_padded
  · exact h
  · exact naive_padded _ _

end Digits
end PaymentGateway
