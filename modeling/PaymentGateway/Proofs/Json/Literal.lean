/-
# What a string literal denotes

The characters between the quotes of a literal denote a text, by rules that say
nothing of how a literal is read (`Denotes`). A character stands for itself unless it
is a quote, a backslash or a control. Eight characters have an escape of one letter.
Every character up to U+FFFF has an escape of four hexadecimal digits, every one
beyond has two of them, a pair of surrogates. A surrogate that is not part of a pair
denotes U+FFFD. So one text has many literals, and the escapes may be mixed.

Every literal may stand between quotes, and undoing its escapes gives the text it
denotes (`Denotes.isSpelled`, `Denotes.value_eq`). The literal in which a text is
written denotes it (`denotes_ofText`), so a text survives being spelled and undone.

Key definitions: `Json.Spelling.Spells`, `Json.Spelling.Denotes`.
Key theorems: `Json.Spelling.Denotes.isSpelled`, `Json.Spelling.Denotes.value_eq`,
`Json.Spelling.denotes_ofText`, `Json.Spelling.value_ofText`.
-/
import PaymentGateway.Proofs.Json.Spelling

namespace PaymentGateway
namespace Json
namespace Spelling

/-- The letters of escapes, each with the character it names. -/
def letters : List (Char × Char) :=
  [('"', '"'), ('\\', '\\'), ('/', '/'), ('b', Char.ofNat 8), ('f', Char.ofNat 12), ('n', '\n'),
    ('r', '\r'), ('t', '\t')]

/-- Four hexadecimal digits, each of either case, spell a number. -/
def Spells (a b c d : Char) (n : Nat) : Prop :=
  ∃ w x y z, Text.Hex.value? a = some w ∧ Text.Hex.value? b = some x ∧
    Text.Hex.value? c = some y ∧ Text.Hex.value? d = some z ∧
    n = w * 4096 + x * 256 + y * 16 + z

/-- The literal goes on with the escape of a low surrogate. -/
def StartsLow (s : List Char) : Prop :=
  ∃ a b c d n rest, s = '\\' :: 'u' :: a :: b :: c :: d :: rest ∧ Spells a b c d n ∧ isLow n = true

/-- **The text that a literal denotes**, character by character. -/
inductive Denotes : List Char → List Char → Prop where
  | nil : Denotes [] []
  /-- A character stands for itself. -/
  | plain {x : Char} {s t : List Char} (slash : x ≠ '\\') (quote : x ≠ '"')
    (control : 0x20 ≤ x.toNat) (rest : Denotes s t) : Denotes (x :: s) (x :: t)
  /-- A letter names a character. -/
  | letter {e x : Char} {s t : List Char} (names : (e, x) ∈ letters) (rest : Denotes s t) :
    Denotes ('\\' :: e :: s) (x :: t)
  /-- Four digits spell the code of a character. -/
  | code {a b c d x : Char} {s t : List Char} (unit : Spells a b c d x.toNat)
    (rest : Denotes s t) : Denotes ('\\' :: 'u' :: a :: b :: c :: d :: s) (x :: t)
  /-- A pair of surrogates spells the code of a character beyond U+FFFF. -/
  | pair {a b c d e f g h x : Char} {s t : List Char} (beyond : 0x10000 ≤ x.toNat)
    (high : Spells a b c d (0xD800 + (x.toNat - 0x10000) / 0x400))
    (low : Spells e f g h (0xDC00 + (x.toNat - 0x10000) % 0x400)) (rest : Denotes s t) :
    Denotes ('\\' :: 'u' :: a :: b :: c :: d :: '\\' :: 'u' :: e :: f :: g :: h :: s) (x :: t)
  /-- A surrogate without its other half is replaced. -/
  | lone {a b c d : Char} {n : Nat} {s t : List Char} (unit : Spells a b c d n)
    (surrogate : isHigh n = true ∧ ¬ StartsLow s ∨ isLow n = true) (rest : Denotes s t) :
    Denotes ('\\' :: 'u' :: a :: b :: c :: d :: s) (Text.Utf8.replacement :: t)

/-! ### Units -/

theorem Spells.unit_eq {a b c d : Char} {n : Nat} (h : Spells a b c d n) : unit a b c d = n := by
  obtain ⟨w, x, y, z, ha, hb, hc, hd, rfl⟩ := h
  simp only [unit, ha, hb, hc, hd, Option.getD_some]

theorem spells_digits {n : Nat} (h : n < 0x10000) :
    Spells (Text.Hex.digit (n / 16 / 16 / 16)) (Text.Hex.digit (n / 16 / 16))
      (Text.Hex.digit (n / 16)) (Text.Hex.digit n) n :=
  ⟨_, _, _, _, Text.Hex.value?_digit _, Text.Hex.value?_digit _, Text.Hex.value?_digit _,
    Text.Hex.value?_digit _, by omega⟩

/-- No character is a surrogate. -/
theorem toNat_not_surrogate (x : Char) : isHigh x.toNat = false ∧ isLow x.toNat = false := by
  have hvalid : x.toNat < 0xD800 ∨ 0xDFFF < x.toNat ∧ x.toNat < 0x110000 := x.valid
  simp only [isHigh, isLow, Bool.and_eq_false_iff, decide_eq_false_iff_not]
  omega

theorem single_toNat (x : Char) : single x.toNat = x := by
  obtain ⟨hhigh, hlow⟩ := toNat_not_surrogate x
  rw [single, hhigh, hlow]
  exact Char.ofNat_toNat x

theorem single_surrogate {n : Nat} (h : isHigh n = true ∨ isLow n = true) :
    single n = Text.Utf8.replacement := by
  rw [single, if_pos (by simpa using h)]

theorem not_isLow_of_isHigh {n : Nat} (h : isHigh n = true) : isLow n = false := by
  simp only [isHigh, isLow, Bool.and_eq_true, Bool.and_eq_false_iff, decide_eq_true_eq,
    decide_eq_false_iff_not] at h ⊢
  omega

theorem not_isHigh_of_isLow {n : Nat} (h : isLow n = true) : isHigh n = false := by
  rw [Bool.eq_false_iff]
  intro hhigh
  rw [not_isLow_of_isHigh hhigh] at h
  cases h

/-- The two surrogates of a character beyond U+FFFF, and the character they make. -/
theorem pair_surrogates {x : Char} (h : 0x10000 ≤ x.toNat) :
    let high := 0xD800 + (x.toNat - 0x10000) / 0x400
    let low := 0xDC00 + (x.toNat - 0x10000) % 0x400
    isHigh high = true ∧ isLow low = true ∧ pair high low = x := by
  intro high low
  have hvalid : x.toNat < 0xD800 ∨ 0xDFFF < x.toNat ∧ x.toNat < 0x110000 := x.valid
  refine ⟨?_, ?_, ?_⟩
  · simp only [isHigh, Bool.and_eq_true, decide_eq_true_eq]
    omega
  · simp only [isLow, Bool.and_eq_true, decide_eq_true_eq]
    omega
  · have hcode : 0x10000 + (high - 0xD800) * 0x400 + (low - 0xDC00) = x.toNat := by omega
    rw [pair, hcode]
    exact Char.ofNat_toNat x

/-- The letters are those that the reader knows, with the characters it takes them to. -/
theorem mem_letters_iff {e x : Char} : (e, x) ∈ letters ↔ isLetter e = true ∧ named e = x := by
  constructor
  · intro h
    simp only [letters, List.mem_cons, List.not_mem_nil, or_false, Prod.mk.injEq] at h
    obtain ⟨rfl, rfl⟩ | ⟨rfl, rfl⟩ | ⟨rfl, rfl⟩ | ⟨rfl, rfl⟩ | ⟨rfl, rfl⟩ | ⟨rfl, rfl⟩ |
      ⟨rfl, rfl⟩ | ⟨rfl, rfl⟩ := h <;> exact ⟨rfl, rfl⟩
  · rintro ⟨h, rfl⟩
    simp only [isLetter, List.mem_cons, List.not_mem_nil, or_false, decide_eq_true_eq] at h
    obtain rfl | rfl | rfl | rfl | rfl | rfl | rfl | rfl := h <;> decide

/-! ### The text of a literal -/

section Value

variable (done : List Char) {a b c d : Char} {n : Nat} {s t : List Char}

/-- A unit that is not a high surrogate is a character by itself. -/
theorem valueOnto_unit (h : Spells a b c d n) (hn : isHigh n = false) :
    valueOnto done none ('\\' :: 'u' :: a :: b :: c :: d :: s) =
      valueOnto (single n :: done) none s := by
  simp only [valueOnto, h.unit_eq, hn, Bool.false_eq_true, ↓reduceIte]

/-- A high surrogate waits for what follows. -/
theorem valueOnto_high (h : Spells a b c d n) (hn : isHigh n = true) :
    valueOnto done none ('\\' :: 'u' :: a :: b :: c :: d :: s) = valueOnto done (some n) s := by
  simp only [valueOnto, h.unit_eq, hn, ↓reduceIte]

/-- A high surrogate that waits for nothing is a character by itself. -/
theorem valueOnto_held (h : Denotes s t) (alone : ¬ StartsLow s) :
    valueOnto done (some n) s = valueOnto (single n :: done) none s := by
  have hunit : ∀ {a b c d : Char} {m : Nat} {rest : List Char}, Spells a b c d m →
      isLow m = false →
      valueOnto done (some n) ('\\' :: 'u' :: a :: b :: c :: d :: rest) =
        valueOnto (single n :: done) none ('\\' :: 'u' :: a :: b :: c :: d :: rest) := by
    intro a b c d m rest hm hlow
    by_cases hhigh : isHigh m = true
    · simp only [valueOnto, hm.unit_eq, hlow, hhigh, Bool.false_eq_true, ↓reduceIte]
    · simp only [valueOnto, hm.unit_eq, hlow, hhigh, Bool.false_eq_true, ↓reduceIte]
  cases h with
  | nil => rfl
  | plain slash _ _ _ =>
    rw [valueOnto_plain _ _ _ slash, valueOnto_plain _ _ _ slash]
    rfl
  | letter names _ =>
    obtain ⟨hletter, -⟩ := mem_letters_iff.mp names
    rw [valueOnto_letter _ _ _ hletter, valueOnto_letter _ _ _ hletter]
    rfl
  | @code _ _ _ _ x _ _ hx _ => exact hunit hx (toNat_not_surrogate x).2
  | pair beyond high _ _ =>
    exact hunit high (not_isLow_of_isHigh (pair_surrogates beyond).1)
  | lone hm surrogate _ =>
    rcases surrogate with ⟨hhigh, -⟩ | hlow
    · exact hunit hm (not_isLow_of_isHigh hhigh)
    · exact absurd ⟨_, _, _, _, _, _, rfl, hm, hlow⟩ alone

end Value

theorem Denotes.valueOnto_eq {s t : List Char} (h : Denotes s t) :
    ∀ done : List Char, valueOnto done none s = done.reverse ++ t := by
  -- what a literal starts with goes onto what is done
  have hcons : ∀ (x : Char) (done t : List Char),
      (x :: done).reverse ++ t = done.reverse ++ x :: t := by simp
  induction h with
  | nil => intro done; simp [valueOnto]
  | plain slash _ _ _ ih =>
    intro done
    rw [valueOnto_plain _ _ _ slash, ih, hcons]
    rfl
  | letter names _ ih =>
    intro done
    obtain ⟨hletter, rfl⟩ := mem_letters_iff.mp names
    rw [valueOnto_letter _ _ _ hletter, ih, hcons]
    rfl
  | @code _ _ _ _ x _ _ hx _ ih =>
    intro done
    rw [valueOnto_unit done hx (toNat_not_surrogate x).1, single_toNat, ih, hcons]
  | pair beyond high low _ ih =>
    intro done
    obtain ⟨hhigh, hlow, hpair⟩ := pair_surrogates beyond
    rw [valueOnto_high done high hhigh, valueOnto]
    simp only [low.unit_eq, hlow, ↓reduceIte]
    rw [hpair, ih, hcons]
  | lone hm surrogate rest ih =>
    intro done
    rcases surrogate with ⟨hhigh, alone⟩ | hlow
    · rw [valueOnto_high done hm hhigh, valueOnto_held done rest alone,
        single_surrogate (.inl hhigh), ih, hcons]
    · rw [valueOnto_unit done hm (not_isHigh_of_isLow hlow), single_surrogate (.inr hlow), ih,
        hcons]

/-- **Undoing the escapes of a literal gives the text it denotes.** -/
theorem Denotes.value_eq {s t : List Char} (h : Denotes s t) : value s = String.ofList t := by
  rw [value, h.valueOnto_eq []]
  rfl

end Spelling

open Reader (TextPart)

namespace Spelling

theorem Spells.after? {a b c d : Char} {n : Nat} (h : Spells a b c d n) (s : List Char) :
    TextPart.plain.after? ('\\' :: 'u' :: a :: b :: c :: d :: s) = TextPart.plain.after? s := by
  obtain ⟨w, x, y, z, ha, hb, hc, hd, -⟩ := h
  have hstart (cs : List Char) :
      TextPart.plain.after? ('\\' :: 'u' :: cs) = (TextPart.hex 3).after? cs := rfl
  rw [hstart, TextPart.after?_hex 3 ha, TextPart.after?_hex 2 hb, TextPart.after?_hex 1 hc,
    TextPart.after?_hex 0 hd]

/-- **A literal may stand between quotes.** -/
theorem Denotes.isSpelled {s t : List Char} (h : Denotes s t) : isSpelled s = true := by
  rw [Json.isSpelled, decide_eq_true_eq]
  induction h with
  | nil => rfl
  | @plain x s t slash quote control _ ih =>
    show TextPart.plain.after? ([x] ++ s) = _
    rw [TextPart.after?_append, TextPart.after?_plain slash quote control]
    exact ih
  | @letter e x s t names _ ih =>
    show TextPart.plain.after? (['\\', e] ++ s) = _
    rw [TextPart.after?_append, TextPart.after?_letter (mem_letters_iff.mp names).1]
    exact ih
  | code unit _ ih => rw [unit.after?, ih]
  | pair _ high low _ ih => rw [high.after?, low.after?, ih]
  | lone unit _ _ ih => rw [unit.after?, ih]

/-- **A text is written as a literal that denotes it.** -/
theorem denotes_ofText (s : String) : Denotes (ofText s) s.toList := by
  unfold ofText
  induction s.toList with
  | nil => exact .nil
  | cons x cs ih =>
    rw [List.flatMap_cons]
    obtain ⟨e, he, hletter, hnamed⟩ | ⟨hcode, hlt⟩ | ⟨hself, slash, quote, control⟩ :=
      ofChar_cases x
    · rw [he]
      exact .letter (mem_letters_iff.mpr ⟨hletter, hnamed⟩) ih
    · rw [hcode]
      exact .code (spells_digits (by omega)) ih
    · rw [hself]
      exact .plain slash quote control ih

/-- **Undoing the escapes of a spelled text gives the text.** -/
@[simp] theorem value_ofText (s : String) : value (ofText s) = s := by
  rw [(denotes_ofText s).value_eq]
  exact String.ofList_toList

end Spelling

/-- **What is spelled may stand between quotes.** -/
@[simp] theorem isSpelled_ofText (s : String) : isSpelled (Spelling.ofText s) = true :=
  (Spelling.denotes_ofText s).isSpelled

end Json
end PaymentGateway
