/-
# Lower case and the length of a text in bytes

Lower-casing keeps the number of characters, but not the number of bytes: in Unicode 15.0.0
25 characters have a lower case of another width (`resizedCodes`), and they are the only ones
(`length_lowerChar_iff`). The table of runs decides it. A run whose two ends keep their width
keeps that of all characters between them, since the width grows with the code; the other
runs are made of the 25.

A text of at most three bytes has room for one such character only, so nothing makes up for
it: the lower case of the text has as many bytes as the text iff the character is not there
(`length_lower_iff`).

Key definitions: `Text.width`, `Text.resizedCodes`, `Text.CaseRun.KeepsWidth`.
Key theorems: `Text.length_lowerChar_iff`, `Text.length_lower_iff`.
-/
import PaymentGateway.Text.LowerCase
import PaymentGateway.Proofs.Text.Utf8

namespace PaymentGateway
namespace Text

/-! ### Widths -/

/-- The number of bytes of the character with code `n`. -/
def width (n : Nat) : Nat :=
  if n < 0x80 then 1 else if n < 0x800 then 2 else if n < 0x10000 then 3 else 4

theorem length_encodeChar (c : Char) : (Utf8.encodeChar c).length = width c.toNat := by
  unfold Utf8.encodeChar width
  simp only
  split
  · rfl
  · split
    · rfl
    · split <;> rfl

theorem width_mono {m n : Nat} (h : m ≤ n) : width m ≤ width n := by
  unfold width
  repeat' split
  all_goals omega

/-- What lies between two codes of one width has that width. -/
theorem width_between {a m b w : Nat} (ha : width a = w) (hb : width b = w) (ham : a ≤ m)
    (hmb : m ≤ b) : width m = w :=
  Nat.le_antisymm (hb ▸ width_mono hmb) (ha ▸ width_mono ham)

/-! ### The runs of the table -/

/-- The codes of the characters whose lower case has another width. -/
def resizedCodes : List Nat :=
  [0x130, 0x23A, 0x23E, 0x1E9E, 0x2126, 0x212A, 0x212B, 0x2C62, 0x2C64, 0x2C6D, 0x2C6E, 0x2C6F,
   0x2C70, 0x2C7E, 0x2C7F, 0xA78D, 0xA7AA, 0xA7AB, 0xA7AC, 0xA7AD, 0xA7AE, 0xA7B0, 0xA7B1,
   0xA7B2, 0xA7C5]

namespace CaseRun

/-- The code that the code `n` moves to. -/
def target (r : CaseRun) (n : Nat) : Nat := (n + r.shift).toNat

/-- The ends of the run have one width before and after they move, and it moves to one side
of the codes that are no characters. -/
structure KeepsWidth (r : CaseRun) : Prop where
  last : width r.last = width r.first
  targetFirst : width (r.target r.first) = width r.first
  targetLast : width (r.target r.last) = width r.first
  valid : r.target r.last < 0xD800 ∨
    0xDFFF < r.target r.first ∧ r.target r.last < 0x110000

instance (r : CaseRun) : Decidable r.KeepsWidth :=
  decidable_of_iff (width r.last = width r.first ∧ width (r.target r.first) = width r.first ∧
    width (r.target r.last) = width r.first ∧ (r.target r.last < 0xD800 ∨
      0xDFFF < r.target r.first ∧ r.target r.last < 0x110000))
    ⟨fun ⟨a, b, c, d⟩ => ⟨a, b, c, d⟩, fun ⟨a, b, c, d⟩ => ⟨a, b, c, d⟩⟩

variable {r : CaseRun} {n : Nat}

theorem bounds_of_covers (h : r.covers n = true) : r.first ≤ n ∧ n ≤ r.last := by
  simp only [covers, Bool.and_eq_true, decide_eq_true_eq] at h
  exact h.1

theorem target_mono {m n : Nat} (h : m ≤ n) : r.target m ≤ r.target n := by
  unfold target
  omega

/-- A run that keeps the width of its ends keeps that of every character it covers. -/
theorem KeepsWidth.target (hk : r.KeepsWidth) (h : r.covers n = true) :
    (r.target n).isValidChar ∧ width (r.target n) = width n := by
  obtain ⟨hfirst, hlast⟩ := bounds_of_covers h
  have hlow : r.target r.first ≤ r.target n := target_mono hfirst
  have hhigh : r.target n ≤ r.target r.last := target_mono hlast
  have hbefore : width n = width r.first := width_between rfl hk.last hfirst hlast
  have hafter : width (r.target n) = width r.first :=
    width_between hk.targetFirst hk.targetLast hlow hhigh
  refine ⟨?_, hafter.trans hbefore.symm⟩
  rcases hk.valid with hv | hv
  · exact .inl (by omega)
  · exact .inr (by omega)

end CaseRun

/-- **The table.** A run keeps the width of its characters, or all of them are resized. -/
theorem lowerRuns_width : ∀ r ∈ lowerRuns,
    r.KeepsWidth ∨ ∀ n ∈ List.range' r.first (r.last + 1 - r.first), n ∈ resizedCodes := by
  decide +kernel

theorem resizedCodes_width : ∀ n ∈ resizedCodes,
    2 ≤ width n ∧ width (lowerChar (Char.ofNat n)).toNat ≠ width n := by
  decide +kernel

/-! ### Characters -/

variable {c : Char}

theorem lowerChar_ascii (h : c.toNat < 128) : (lowerChar c).toNat < 128 := by
  have hall : ∀ n < 128, (Char.ofNat n).toLower.toNat < 128 := by decide +kernel
  have hc := hall c.toNat h
  rw [Char.ofNat_toNat] at hc
  rw [lowerChar, if_pos h]
  exact hc

/-- A character that is not resized keeps its width. -/
theorem width_lowerChar (h : c.toNat ∉ resizedCodes) :
    width (lowerChar c).toNat = width c.toNat := by
  by_cases hascii : c.toNat < 128
  · have hlower := lowerChar_ascii hascii
    simp only [width, hlower, hascii, ↓reduceIte]
  · rw [lowerChar, if_neg hascii]
    cases hr : lowerRuns.find? (·.covers c.toNat) with
    | none => rfl
    | some r =>
      have hcovers := List.find?_some hr
      rcases lowerRuns_width r (List.mem_of_find?_eq_some hr) with hkeeps | hresized
      · obtain ⟨hvalid, hwidth⟩ := hkeeps.target hcovers
        show width (Char.ofNat (r.target c.toNat)).toNat = width c.toNat
        rw [Char.ofNat, dif_pos hvalid]
        exact hwidth
      · obtain ⟨hfirst, hlast⟩ := CaseRun.bounds_of_covers hcovers
        refine absurd (hresized _ ?_) h
        rw [List.mem_range'_1]
        omega

/-- **The lower case of a character has another width exactly if it is one of the 25.** -/
theorem length_lowerChar_iff :
    (Utf8.encodeChar (lowerChar c)).length = (Utf8.encodeChar c).length ↔
      c.toNat ∉ resizedCodes := by
  rw [length_encodeChar, length_encodeChar]
  constructor
  · intro heq hmem
    have hne := (resizedCodes_width _ hmem).2
    rw [Char.ofNat_toNat] at hne
    exact hne heq
  · exact width_lowerChar

theorem two_le_length_of_resized (h : c.toNat ∈ resizedCodes) :
    2 ≤ (Utf8.encodeChar c).length := by
  rw [length_encodeChar]
  exact (resizedCodes_width _ h).1

/-! ### Texts -/

theorem encode_cons (c : Char) (cs : List Char) :
    Utf8.encode (c :: cs) = Utf8.encodeChar c ++ Utf8.encode cs := rfl

/-- The lower case of a text without resized characters has as many bytes. -/
theorem length_encode_lower : ∀ {cs : List Char}, (∀ c ∈ cs, c.toNat ∉ resizedCodes) →
    (Utf8.encode (cs.map lowerChar)).length = (Utf8.encode cs).length
  | [], _ => rfl
  | c :: cs, h => by
    obtain ⟨hc, hcs⟩ := List.forall_mem_cons.mp h
    rw [List.map_cons, encode_cons, encode_cons, List.length_append, List.length_append,
      length_lowerChar_iff.mpr hc, length_encode_lower hcs]

/-- A text of one byte has no resized character. -/
theorem unresized_of_short {cs : List Char} (h : (Utf8.encode cs).length ≤ 1) :
    ∀ c ∈ cs, c.toNat ∉ resizedCodes := by
  intro c hmem hc
  have hwide := two_le_length_of_resized hc
  obtain ⟨before, after, rfl⟩ := List.append_of_mem hmem
  simp only [Utf8.encode, List.flatMap_append, List.flatMap_cons, List.length_append] at h
  omega

/-- **The lower case of a text of at most three bytes** has as many bytes iff none of its
characters is resized. -/
theorem length_lower_iff {s : String} (h : (Utf8.bytes s).length ≤ 3) :
    (Utf8.bytes (lower s)).length = (Utf8.bytes s).length ↔
      ∀ c ∈ s.toList, c.toNat ∉ resizedCodes := by
  have hlower : Utf8.bytes (lower s) = Utf8.encode (s.toList.map lowerChar) := by
    rw [Utf8.bytes, lower, String.toList_ofList]
  rw [hlower]
  unfold Utf8.bytes at h ⊢
  constructor
  · intro heq c hmem hc
    -- what stands before and after a character of two bytes or more has one byte together
    have hwide := two_le_length_of_resized hc
    obtain ⟨before, after, hsplit⟩ := List.append_of_mem hmem
    have hchar : ¬ (Utf8.encodeChar (lowerChar c)).length = (Utf8.encodeChar c).length :=
      fun hsame => length_lowerChar_iff.mp hsame hc
    rw [hsplit] at h heq
    simp only [Utf8.encode, List.map_append, List.map_cons, List.flatMap_append,
      List.flatMap_cons, List.length_append] at h heq
    have hshort : (Utf8.encode before).length ≤ 1 ∧ (Utf8.encode after).length ≤ 1 := by
      unfold Utf8.encode
      omega
    have hbefore := length_encode_lower (unresized_of_short hshort.1)
    have hafter := length_encode_lower (unresized_of_short hshort.2)
    unfold Utf8.encode at hbefore hafter
    omega
  · exact length_encode_lower

end Text
end PaymentGateway
