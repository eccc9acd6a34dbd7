/-
# Forms survive their text

An escaped text holds letters, digits and `-_.~+%` only (`escape_kept`), so none of the
separators of a form or of an address, and undoing its escapes gives the text back
(`unescapeForm?_escape`), whatever characters it has. A form therefore splits at its
separators into the pairs it was made of, and reading it gives the form
(`Form.decode?_encode`). So two forms with one text are the same.

Key definition: `Percent.isKept`.
Key theorems: `Percent.escape_kept`, `Percent.unescapeForm?_escape`, `Form.decode?_encode`.
-/
import PaymentGateway.Proofs.Text.Splitting
import PaymentGateway.Proofs.Text.Utf8
import PaymentGateway.Url.Form

namespace PaymentGateway

/-! ### Escapes -/

namespace Text.Hex

theorem value?_upperDigit (n : Nat) : value? (upperDigit n) = some (n % 16) := by
  have hall : ∀ d < 16, value? (upperDigit d) = some d := by decide
  have hmod : upperDigit n = upperDigit (n % 16) := by simp [upperDigit]
  rw [hmod, hall (n % 16) (Nat.mod_lt n (by decide))]

end Text.Hex

namespace Percent

/-- A character that an escaped text may hold. -/
def isKept (c : Char) : Bool := isUnreserved c || c = '+' || c = '%'

theorem upperDigit_unreserved (n : Nat) : isUnreserved (Text.Hex.upperDigit n) = true := by
  have hall : ∀ d < 16, isUnreserved (Text.Hex.upperDigit d) = true := by decide
  have hmod : Text.Hex.upperDigit n = Text.Hex.upperDigit (n % 16) := by simp [Text.Hex.upperDigit]
  rw [hmod, hall (n % 16) (Nat.mod_lt n (by decide))]

theorem ne_of_unreserved {c x : Char} (hc : isUnreserved c = true) (hx : isUnreserved x = false) :
    c ≠ x := by
  rintro rfl
  rw [hc] at hx
  cases hx

theorem escapeByte_kept (b : UInt8) : ∀ c ∈ escapeByte b, isKept c = true := by
  simp only [escapeByte, List.forall_mem_cons, List.not_mem_nil, false_implies, implies_true,
    and_true, isKept, upperDigit_unreserved, Bool.true_or]
  decide

/-- **An escaped text holds unreserved characters, `+` and `%` only.** -/
theorem escape_kept (s : String) : ∀ c ∈ escape s, isKept c = true := by
  intro c hc
  obtain ⟨x, -, hx⟩ := List.mem_flatMap.mp hc
  unfold escapeChar at hx
  split at hx
  · rw [List.mem_singleton.mp hx]
    decide
  · split at hx
    · next hplain =>
      rw [List.mem_singleton.mp hx, isKept, hplain]
      rfl
    · obtain ⟨b, -, hb⟩ := List.mem_flatMap.mp hx
      exact escapeByte_kept b c hb

theorem notMem_escape (s : String) {x : Char} (hx : isKept x = false) : x ∉ escape s := by
  intro hmem
  rw [escape_kept s x hmem] at hx
  cases hx

/-- A character that starts no escape stands for its bytes. -/
theorem bytes?_cons {c : Char} (hc : c ≠ '%') {rest : List Char} {bs : List UInt8}
    (h : bytes? rest = some bs) : bytes? (c :: rest) = some (Text.Utf8.encodeChar c ++ bs) := by
  rw [bytes?.eq_3 _ _ (fun _ _ _ hp _ => hc hp), if_neg hc, h, Option.map_some]

/-- Escapes are undone from left to right. -/
theorem bytes?_append {xs ys : List Char} {as bs : List UInt8} (hx : bytes? xs = some as)
    (hy : bytes? ys = some bs) : bytes? (xs ++ ys) = some (as ++ bs) := by
  fun_induction bytes? xs generalizing as with
  | case1 =>
    cases hx
    exact hy
  | case2 a b rest ih =>
    simp only [Option.bind_eq_bind, Option.bind_eq_some_iff, Option.pure_def,
      Option.some.injEq] at hx
    obtain ⟨x, hbyte, more, hmore, rfl⟩ := hx
    simp only [List.cons_append, bytes?, hbyte, ih hmore, Option.bind_eq_bind, Option.bind_some,
      Option.pure_def]
  | case3 => cases hx
  | case4 c rest _ hc ih =>
    obtain ⟨more, hmore, rfl⟩ := Option.map_eq_some_iff.mp hx
    rw [List.cons_append, bytes?_cons hc (ih hmore), List.append_assoc]

theorem bytes?_singleton {c : Char} (hc : c ≠ '%') :
    bytes? [c] = some (Text.Utf8.encodeChar c) := by
  rw [bytes?_cons hc (rfl : bytes? [] = some []), List.append_nil]

theorem bytes?_escapeByte (b : UInt8) : bytes? (escapeByte b) = some [b] := by
  have hb : b.toNat < 256 := b.toNat_lt
  have hsum : b.toNat / 16 % 16 * 16 + b.toNat % 16 = b.toNat := by omega
  simp only [escapeByte, bytes?, byte?, Text.Hex.value?_upperDigit, hsum, UInt8.ofNat_toNat,
    Option.bind_eq_bind, Option.bind_some, Option.pure_def]

theorem bytes?_escapeBytes : ∀ bs : List UInt8, bytes? (bs.flatMap escapeByte) = some bs
  | [] => rfl
  | b :: bs => bytes?_append (bytes?_escapeByte b) (bytes?_escapeBytes bs)

/-- The escapes of an escaped text can be undone anywhere. -/
theorem exists_bytes?_escape : ∀ cs : List Char, ∃ bs, bytes? (cs.flatMap escapeChar) = some bs
  | [] => ⟨[], rfl⟩
  | c :: cs => by
    obtain ⟨bs, hbs⟩ := exists_bytes?_escape cs
    have hchar : ∃ as, bytes? (escapeChar c) = some as := by
      unfold escapeChar
      split
      · exact ⟨_, bytes?_singleton (by decide)⟩
      · split
        · next hplain => exact ⟨_, bytes?_singleton (ne_of_unreserved hplain (by decide))⟩
        · exact ⟨_, bytes?_escapeBytes _⟩
    obtain ⟨as, has⟩ := hchar
    exact ⟨as ++ bs, bytes?_append has hbs⟩

/-- What stands for a character in a form: `+` is a space. -/
def formChar (c : Char) : Char := if c = '+' then ' ' else c

theorem formChar_of_ne {c : Char} (h : c ≠ '+') : formChar c = c := if_neg h

/-- An escape means in a form what it means elsewhere. -/
theorem map_formChar_escapeBytes (bs : List UInt8) :
    (bs.flatMap escapeByte).map formChar = bs.flatMap escapeByte := by
  have hdigit (n : Nat) : formChar (Text.Hex.upperDigit n) = Text.Hex.upperDigit n :=
    formChar_of_ne (ne_of_unreserved (upperDigit_unreserved n) (by decide))
  have hbyte (b : UInt8) : (escapeByte b).map formChar = escapeByte b := by
    simp only [escapeByte, List.map_cons, List.map_nil, hdigit]
    rfl
  simp only [List.map_flatMap, hbyte]

/-- An escaped character is read back as its bytes. -/
theorem bytes?_escapeChar (c : Char) :
    bytes? ((escapeChar c).map formChar) = some (Text.Utf8.encodeChar c) := by
  unfold escapeChar
  split
  · next hspace =>
    rw [hspace]
    rfl
  · split
    · next hplain =>
      rw [List.map_singleton, formChar_of_ne (ne_of_unreserved hplain (by decide))]
      exact bytes?_singleton (ne_of_unreserved hplain (by decide))
    · rw [map_formChar_escapeBytes, bytes?_escapeBytes]

theorem bytes?_escape : ∀ cs : List Char,
    bytes? ((cs.flatMap escapeChar).map formChar) = some (Text.Utf8.encode cs)
  | [] => rfl
  | c :: cs => by
    rw [List.flatMap_cons, List.map_append]
    exact bytes?_append (bytes?_escapeChar c) (bytes?_escape cs)

/-- **Undoing the escapes of a form gives the text back.** -/
theorem unescapeForm?_escape (s : String) : unescapeForm? (escape s) = some s := by
  have hbytes : bytes? ((escape s).map formChar) = some (Text.Utf8.bytes s) :=
    bytes?_escape s.toList
  show (bytes? ((escape s).map formChar)).map Text.Utf8.text = some s
  rw [hbytes, Option.map_some, Text.Utf8.text, Text.Utf8.bytes, Text.Utf8.decode_encode,
    String.ofList_toList]

end Percent

/-! ### Forms -/

namespace Form

theorem decodePair?_encodePair (p : String × String) : decodePair? (encodePair p) = some p := by
  have hname : '=' ∉ Percent.escape p.1 := Percent.notMem_escape p.1 (by decide)
  simp only [decodePair?, encodePair, Text.cut_append hname, Percent.unescapeForm?_escape,
    Option.getD_some, Option.bind_eq_bind, Option.bind_some, Option.pure_def]

theorem mapM_encodePair : ∀ f : Form, (f.map encodePair).mapM decodePair? = some f
  | [] => rfl
  | p :: f => by
    rw [List.map_cons, List.mapM_cons, decodePair?_encodePair, mapM_encodePair f]
    rfl

theorem ampersand_notMem_pair (p : String × String) : '&' ∉ encodePair p := by
  have hescape (s : String) : '&' ∉ Percent.escape s := Percent.notMem_escape s (by decide)
  simp only [encodePair, List.mem_append, List.mem_cons, hescape, false_or, or_false]
  decide

/-- A form splits into its pairs. -/
theorem split_write : ∀ {f : Form}, f ≠ [] → Text.split '&' (write f) = f.map encodePair
  | [], h => absurd rfl h
  | [p], _ => Text.split_of_notMem (ampersand_notMem_pair p)
  | p :: q :: rest, _ => by
    rw [write, Text.split_append (ampersand_notMem_pair p), split_write (List.cons_ne_nil q rest)]
    rfl

theorem write_ne_nil : ∀ {f : Form}, f ≠ [] → write f ≠ []
  | [], h => absurd rfl h
  | [p], _ => by simp [write, encodePair]
  | p :: q :: rest, _ => by simp [write, encodePair]

/-- **A form is read back from its text.** -/
theorem decode?_encode (f : Form) : decode? f.encode = some f := by
  by_cases hf : f = []
  · subst hf
    rfl
  · have htext : f.encode ≠ "" := by
      intro hempty
      apply write_ne_nil hf
      rw [← String.toList_ofList (l := write f)]
      exact congrArg String.toList hempty
    rw [decode?, if_neg htext, encode, String.toList_ofList, split_write hf, mapM_encodePair]

end Form
end PaymentGateway
