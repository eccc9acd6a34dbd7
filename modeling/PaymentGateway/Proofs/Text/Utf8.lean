/-
# Decoding undoes encoding

The bytes of a text decode to the text (`decode_encode`). A character takes one
to four bytes; `first?` reads it off their front whatever follows
(`first?_encodeChar`), and the decoder then skips the rest of them. Whatever bytes
stand before it, a byte of ASCII is a character of its own, so decoding starts anew
after it (`decode_ascii`).

Key theorems: `Text.Utf8.first?_encodeChar`, `Text.Utf8.decode_encode`,
`Text.Utf8.decode_ascii`.
-/
import PaymentGateway.Text.Utf8

namespace PaymentGateway
namespace Text
namespace Utf8

theorem toNat_ofNat {n : Nat} (h : n < 256) : (UInt8.ofNat n).toNat = n := by
  rw [UInt8.toNat_ofNat']
  exact Nat.mod_eq_of_lt h

/-- A continuation byte adds its last six bits. -/
theorem tail?_ofNat {n : Nat} (h : n < 64) : tail? (UInt8.ofNat (0x80 + n)) = some n := by
  have hbyte : (UInt8.ofNat (0x80 + n)).toNat = 0x80 + n := toNat_ofNat (by omega)
  have hrange : 0x80 ≤ 0x80 + n ∧ 0x80 + n < 0xC0 := by omega
  simp only [tail?, hbyte, hrange, and_self, ↓reduceIte, Nat.add_sub_cancel_left]

theorem scalar?_toNat {least : Nat} {c : Char} (h : least ≤ c.toNat) :
    scalar? least c.toNat = some c := by
  have hvalid : c.toNat.isValidChar := c.valid
  rw [scalar?, if_pos ⟨h, hvalid⟩, Char.ofNat_toNat]

theorem toNat_lt (c : Char) : c.toNat < 0x110000 := by
  have hvalid : c.toNat.isValidChar := c.valid
  unfold Nat.isValidChar at hvalid
  omega

section Sequences

variable {a b₁ b₂ b₃ : UInt8} {x₁ x₂ x₃ : Nat} {c : Char} (rest : List UInt8)

theorem first?_one (ha : a.toNat < 0x80) : first? (a :: rest) = some (Char.ofNat a.toNat, 0) := by
  simp only [first?, ha, ↓reduceIte]

theorem first?_two (ha : 0xC0 ≤ a.toNat ∧ a.toNat < 0xE0) (h₁ : tail? b₁ = some x₁)
    (hc : scalar? 0x80 ((a.toNat - 0xC0) * 64 + x₁) = some c) :
    first? (a :: b₁ :: rest) = some (c, 1) := by
  have hlow : ¬ a.toNat < 0x80 := by omega
  rw [first?]
  simp only [hlow, ha, and_self, ↓reduceIte, h₁, Option.bind_eq_bind, Option.bind_some, hc,
    Option.pure_def]

theorem first?_three (ha : 0xE0 ≤ a.toNat ∧ a.toNat < 0xF0) (h₁ : tail? b₁ = some x₁)
    (h₂ : tail? b₂ = some x₂)
    (hc : scalar? 0x800 ((a.toNat - 0xE0) * 4096 + x₁ * 64 + x₂) = some c) :
    first? (a :: b₁ :: b₂ :: rest) = some (c, 2) := by
  have hlow : ¬ a.toNat < 0x80 := by omega
  have hmid : ¬ (0xC0 ≤ a.toNat ∧ a.toNat < 0xE0) := by omega
  rw [first?]
  simp only [hlow, hmid, ha, and_self, ↓reduceIte, h₁, h₂, Option.bind_eq_bind, Option.bind_some,
    hc, Option.pure_def]

/-- Three continuation bytes are handed on. The scalar is a parameter, so that
its large factors are never computed with. -/
theorem bind_tails (h₁ : tail? b₁ = some x₁) (h₂ : tail? b₂ = some x₂) (h₃ : tail? b₃ = some x₃)
    (scalar : Nat → Nat → Nat → Option Char) (hc : scalar x₁ x₂ x₃ = some c) :
    (do
      let c ← scalar (← tail? b₁) (← tail? b₂) (← tail? b₃)
      return (c, 3)) = some (c, 3) := by
  rw [h₁, h₂, h₃]
  simp only [Option.bind_eq_bind, Option.bind_some, hc, Option.pure_def]

theorem first?_four (ha : 0xF0 ≤ a.toNat ∧ a.toNat < 0xF8) (h₁ : tail? b₁ = some x₁)
    (h₂ : tail? b₂ = some x₂) (h₃ : tail? b₃ = some x₃)
    (hc : scalar? 0x10000 ((a.toNat - 0xF0) * 262144 + x₁ * 4096 + x₂ * 64 + x₃) = some c) :
    first? (a :: b₁ :: b₂ :: b₃ :: rest) = some (c, 3) := by
  have hlow : ¬ a.toNat < 0x80 := by omega
  have hmid : ¬ (0xC0 ≤ a.toNat ∧ a.toNat < 0xE0) := by omega
  have hhigh : ¬ (0xE0 ≤ a.toNat ∧ a.toNat < 0xF0) := by omega
  simp only [first?, hlow, hmid, hhigh, ha, and_self, ↓reduceIte]
  exact bind_tails h₁ h₂ h₃
    (fun x y z => scalar? 0x10000 ((a.toNat - 0xF0) * 262144 + x * 4096 + y * 64 + z)) hc

end Sequences

/-- **A character is read off the front of its bytes**, with the number of bytes
that it takes after the first. -/
theorem first?_encodeChar (c : Char) (rest : List UInt8) :
    first? (encodeChar c ++ rest) = some (c, (encodeChar c).length - 1) := by
  have hlt := toNat_lt c
  unfold encodeChar
  simp only
  by_cases h1 : c.toNat < 0x80
  · have hlead := toNat_ofNat (show c.toNat < 256 by omega)
    rw [if_pos h1, List.singleton_append, first?_one rest (by omega), hlead, Char.ofNat_toNat]
    rfl
  by_cases h2 : c.toNat < 0x800
  · have hlead := toNat_ofNat (show 0xC0 + c.toNat / 64 < 256 by omega)
    have hsum : (0xC0 + c.toNat / 64 - 0xC0) * 64 + c.toNat % 64 = c.toNat := by omega
    rw [if_neg h1, if_pos h2]
    apply first?_two rest (by omega) (tail?_ofNat (by omega))
    rw [hlead, hsum]
    exact scalar?_toNat (by omega)
  by_cases h3 : c.toNat < 0x10000
  · have hlead := toNat_ofNat (show 0xE0 + c.toNat / 4096 < 256 by omega)
    have hsum : (0xE0 + c.toNat / 4096 - 0xE0) * 4096 + c.toNat / 64 % 64 * 64 + c.toNat % 64 =
        c.toNat := by omega
    rw [if_neg h1, if_neg h2, if_pos h3]
    apply first?_three rest (by omega) (tail?_ofNat (by omega)) (tail?_ofNat (by omega))
    rw [hlead, hsum]
    exact scalar?_toNat (by omega)
  · have hlead := toNat_ofNat (show 0xF0 + c.toNat / 262144 < 256 by omega)
    have hsum : (0xF0 + c.toNat / 262144 - 0xF0) * 262144 + c.toNat / 4096 % 64 * 4096 +
        c.toNat / 64 % 64 * 64 + c.toNat % 64 = c.toNat := by omega
    rw [if_neg h1, if_neg h2, if_neg h3]
    apply first?_four rest (by omega) (tail?_ofNat (by omega)) (tail?_ofNat (by omega))
      (tail?_ofNat (by omega))
    rw [hlead, hsum]
    exact scalar?_toNat (by omega)

theorem encodeChar_ne_nil (c : Char) : encodeChar c ≠ [] := by
  unfold encodeChar
  simp only
  split
  · simp
  · split
    · simp
    · split <;> simp

/-- The bytes to be skipped are skipped. -/
theorem decodeOnto_skip : ∀ (bs : List UInt8) (done : List Char) (rest : List UInt8),
    decodeOnto bs.length done (bs ++ rest) = decodeOnto 0 done rest
  | [], _, _ => rfl
  | _ :: bs, done, rest => decodeOnto_skip bs done rest

theorem decodeOnto_encodeChar (c : Char) (done : List Char) (rest : List UInt8) :
    decodeOnto 0 done (encodeChar c ++ rest) = decodeOnto 0 (c :: done) rest := by
  have hfirst := first?_encodeChar c rest
  cases hc : encodeChar c with
  | nil => exact absurd hc (encodeChar_ne_nil c)
  | cons b bs =>
    rw [hc, List.cons_append] at hfirst
    rw [List.cons_append, decodeOnto, hfirst]
    exact decodeOnto_skip bs (c :: done) rest

theorem decodeOnto_encode : ∀ (cs done : List Char),
    decodeOnto 0 done (encode cs) = done.reverse ++ cs
  | [], done => by simp [encode, decodeOnto]
  | c :: cs, done => by
    have ih := decodeOnto_encode cs (c :: done)
    show decodeOnto 0 done (encodeChar c ++ encode cs) = _
    rw [decodeOnto_encodeChar, ih, List.reverse_cons, List.append_assoc]
    rfl

/-- **Decoding undoes encoding.** -/
theorem decode_encode (cs : List Char) : decode (encode cs) = cs :=
  decodeOnto_encode cs []

/-! ### Where a byte of ASCII stands -/

theorem tail?_ascii {b : UInt8} (hb : b.toNat < 0x80) : tail? b = none := by
  simp only [tail?]
  rw [if_neg (by omega)]

theorem decodeOnto_append_done : ∀ (bs : List UInt8) (skip : Nat) (done : List Char),
    decodeOnto skip done bs = done.reverse ++ decodeOnto skip [] bs
  | [], skip, done => by simp [decodeOnto]
  | _ :: rest, skip + 1, done => decodeOnto_append_done rest skip done
  | b :: rest, 0, done => by
    unfold decodeOnto
    split
    · next c more _ =>
      rw [decodeOnto_append_done rest more (c :: done), decodeOnto_append_done rest more [c]]
      simp
    · rw [decodeOnto_append_done rest 0 (replacement :: done),
        decodeOnto_append_done rest 0 [replacement]]
      simp

section Ascii

variable {a b : UInt8} (hb : b.toNat < 0x80)
include hb

/-- What a character is does not depend on what follows a byte of ASCII. -/
theorem first?_ascii (front rest : List UInt8) :
    first? (a :: (front ++ b :: rest)) = first? (a :: (front ++ [b])) := by
  have htail := tail?_ascii hb
  -- a character has at most three bytes after its first
  rcases front with _ | ⟨x, _ | ⟨y, _ | ⟨z, front⟩⟩⟩ <;>
    rcases rest with _ | ⟨r, _ | ⟨s, rest⟩⟩ <;> simp [first?, htail]

/-- A byte of ASCII belongs to no character before it. -/
theorem first?_ascii_le {front : List UInt8} {c : Char} {more : Nat}
    (h : first? (a :: (front ++ [b])) = some (c, more)) : more ≤ front.length := by
  have htail := tail?_ascii hb
  rcases front with _ | ⟨x, _ | ⟨y, _ | ⟨z, front⟩⟩⟩ <;>
    simp only [first?, htail, List.nil_append, List.cons_append, Option.bind_eq_bind,
      Option.bind_none, Option.pure_def] at h <;>
    repeat' split at h
  all_goals simp [Option.bind_eq_some_iff] at h ⊢ <;> omega

theorem decodeOnto_ascii (rest : List UInt8) : ∀ (front : List UInt8) (skip : Nat)
    (done : List Char), skip ≤ front.length →
    decodeOnto skip done (front ++ b :: rest) =
      decodeOnto skip done (front ++ [b]) ++ decode rest
  | [], 0, done, _ => by
    simp only [List.nil_append, decodeOnto, first?_one _ hb]
    exact decodeOnto_append_done rest 0 _
  | [], skip + 1, _, h => absurd h (Nat.not_succ_le_zero skip)
  | _ :: front, skip + 1, done, h =>
    decodeOnto_ascii rest front skip done (Nat.le_of_succ_le_succ h)
  | a :: front, 0, done, _ => by
    simp only [List.cons_append, decodeOnto, first?_ascii hb front rest]
    cases hfirst : first? (a :: (front ++ [b])) with
    | none => exact decodeOnto_ascii rest front 0 (replacement :: done) (Nat.zero_le _)
    | some found =>
      exact decodeOnto_ascii rest front found.2 (found.1 :: done) (first?_ascii_le hb hfirst)

/-- **Decoding starts anew after a byte of ASCII.** -/
theorem decode_ascii (front rest : List UInt8) :
    decode (front ++ b :: rest) = decode (front ++ [b]) ++ decode rest :=
  decodeOnto_ascii hb rest front 0 [] (Nat.zero_le _)

end Ascii

end Utf8
end Text
end PaymentGateway
