/-
# Spelled strings

A character is written in one of three ways (`ofChar_cases`): as itself, as an
escape of one letter, or as an escape of four hexadecimal digits, which no
surrogate is written with. For each of the three ways it is said here how its
escape is undone (`valueOnto_plain`, `valueOnto_letter`) and how the reader of a
string goes through it (`TextPart.after?_plain`, `TextPart.after?_letter`,
`TextPart.after?_hex`).

Key definitions: `Json.Reader.TextPart.after?`, `Json.isSpelled`.
Key theorem: `Json.Spelling.ofChar_cases`.
-/
import PaymentGateway.Json.Reader

namespace PaymentGateway

theorem Text.Hex.value?_digit (n : Nat) : Text.Hex.value? (Text.Hex.digit n) = some (n % 16) := by
  have hsmall : ∀ d < 16, Text.Hex.value? (Text.Hex.digit d) = some d := by decide
  have hmod : Text.Hex.digit n = Text.Hex.digit (n % 16) := by
    simp only [Text.Hex.digit, Nat.mod_mod]
  rw [hmod]
  exact hsmall _ (Nat.mod_lt n (by decide))

namespace Json
namespace Spelling

/-- A letter that, after a backslash, names a character. -/
def isLetter (c : Char) : Bool := c ∈ ['"', '\\', '/', 'b', 'f', 'n', 'r', 't']

/-- **A character is written in one of three ways**: by a letter that names it,
by its code if that is no surrogate, or as itself. -/
theorem ofChar_cases (c : Char) :
    (∃ e, ofChar c = ['\\', e] ∧ isLetter e = true ∧ named e = c) ∨
    (ofChar c = '\\' :: 'u' :: Text.Hex.padded 4 c.toNat ∧ c.toNat < 0xD800) ∨
    (ofChar c = [c] ∧ c ≠ '\\' ∧ c ≠ '"' ∧ 0x20 ≤ c.toNat) := by
  unfold ofChar
  split
  · exact .inl ⟨'"', rfl, rfl, rfl⟩
  · exact .inl ⟨'\\', rfl, rfl, rfl⟩
  · exact .inl ⟨'n', rfl, rfl, rfl⟩
  · exact .inl ⟨'r', rfl, rfl, rfl⟩
  · exact .inl ⟨'t', rfl, rfl, rfl⟩
  · next hquote hslash _ _ _ =>
    -- two more controls have a letter, the others and the page's marks a code
    by_cases hb : c.toNat = 8
    · have hc : c = Char.ofNat 8 := by rw [← hb, Char.ofNat_toNat]
      exact .inl ⟨'b', by simp only [hb, ↓reduceIte], rfl, hc ▸ rfl⟩
    by_cases hf : c.toNat = 12
    · have hc : c = Char.ofNat 12 := by rw [← hf, Char.ofNat_toNat]
      exact .inl ⟨'f', by simp only [hf, ↓reduceIte, Nat.reduceEqDiff], rfl, hc ▸ rfl⟩
    simp only [hb, hf, ↓reduceIte]
    split
    · next hcode =>
      refine .inr (.inl ⟨rfl, ?_⟩)
      obtain h | rfl | rfl | rfl | h | h := hcode
      · omega
      · decide
      · decide
      · decide
      · omega
      · omega
    · next hcode =>
      refine .inr (.inr ⟨rfl, fun h => hslash h, fun h => hquote h, ?_⟩)
      omega

section Value

variable (done rest : List Char) (held : Option Nat)

/-- A letter gives the character it names, after a surrogate that waited in vain. -/
theorem valueOnto_letter {e : Char} (he : isLetter e = true) :
    valueOnto done held ('\\' :: e :: rest) =
      valueOnto (named e :: ((held.map single).toList ++ done)) none rest := by
  have hu : e ≠ 'u' := by rintro rfl; exact absurd he (by decide)
  rw [valueOnto]
  exact fun _ _ _ _ _ h => absurd h hu

/-- A character gives itself, after a surrogate that waited in vain. -/
theorem valueOnto_plain {c : Char} (hc : c ≠ '\\') :
    valueOnto done held (c :: rest) =
      valueOnto (c :: ((held.map single).toList ++ done)) none rest := by
  rw [valueOnto]
  · exact fun _ _ _ _ _ h => absurd h hc
  · exact fun _ _ h => absurd h hc

end Value

/-- A text of characters that need no escape is its own spelling. -/
theorem ofText_plain {cs : List Char} (h : ∀ c ∈ cs, ofChar c = [c]) :
    ofText (String.ofList cs) = cs := by
  rw [ofText, String.toList_ofList]
  induction cs with
  | nil => rfl
  | cons c cs ih =>
    rw [List.flatMap_cons, h c List.mem_cons_self, ih fun x hx => h x (List.mem_cons_of_mem c hx)]
    rfl

end Spelling

namespace Reader

/-- The part that a string is in after more characters; `none` when it ends
before them or one of them may not stand there. -/
def TextPart.after? : TextPart → List Char → Option TextPart
  | p, [] => some p
  | p, c :: cs => if p = .plain ∧ c = '"' then none else (p.next? c).bind (·.after? cs)

theorem TextPart.after?_append (ds : List Char) : ∀ (cs : List Char) (p : TextPart),
    p.after? (cs ++ ds) = (p.after? cs).bind (·.after? ds)
  | [], p => rfl
  | c :: cs, p => by
    simp only [List.cons_append, after?]
    split
    · rfl
    · rw [Option.bind_assoc]
      congr 1
      funext q
      exact after?_append ds cs q

theorem TextPart.after?_letter {e : Char} (he : Spelling.isLetter e = true) :
    TextPart.plain.after? ['\\', e] = some .plain := by
  simp only [Spelling.isLetter, List.mem_cons, List.not_mem_nil, or_false, decide_eq_true_eq] at he
  obtain rfl | rfl | rfl | rfl | rfl | rfl | rfl | rfl := he <;> decide

theorem TextPart.after?_hex (more : Nat) {c : Char} {n : Nat} (hc : Text.Hex.value? c = some n)
    (cs : List Char) : (TextPart.hex more).after? (c :: cs) =
      (match more with | 0 => plain | more + 1 => hex more).after? cs := by
  cases more <;>
    simp only [after?, reduceCtorEq, false_and, ↓reduceIte, next?, hc, Option.isSome_some,
      Option.bind_some]

theorem TextPart.after?_plain {c : Char} (hslash : c ≠ '\\') (hquote : c ≠ '"')
    (hcontrol : 0x20 ≤ c.toNat) : TextPart.plain.after? [c] = some .plain := by
  have hlt : ¬ c.toNat < 0x20 := by omega
  simp only [after?, next?, hquote, and_false, hslash, hlt, ↓reduceIte, Option.bind_some]

end Reader

/-- Whether a spelling may stand between two quotes. -/
def isSpelled (spelling : List Char) : Bool := Reader.TextPart.plain.after? spelling = some .plain

end Json
end PaymentGateway
