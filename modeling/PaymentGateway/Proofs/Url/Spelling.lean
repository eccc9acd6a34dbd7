/-
# Paths spelled in escapes

Escaping a path keeps its slashes and makes no new ones (`Address.slash_mem_escapePath`), and
undoing the escapes gives the path back (`Address.escapePath_injective`). So it is escaped
segment by segment, a segment that is a name stays one, and the spelling of a clean path is a
clean path too (`Address.escapePath_isClean`).

Such a spelling is read as it was written: an address that is nothing but a path with a query
has one form in writing (`Address.render_ofPath`), which as a target is that address
(`Address.parseTarget?_ofPath`).

Key theorems: `Percent.bytes?_escapeBut`, `Address.escapePath_isClean`,
`Address.render_ofPath`, `Address.parseTarget?_ofPath`.
-/
import PaymentGateway.Proofs.Url.CleanPath
import PaymentGateway.Proofs.Url.Parts

namespace PaymentGateway

/-! ### Bytes of ASCII -/

namespace Text.Utf8

/-- A byte of ASCII is a character. -/
theorem encodeChar_ofNat {b : UInt8} (hb : b.toNat < 0x80) :
    encodeChar (Char.ofNat b.toNat) = [b] := by
  have hall : ∀ n < 128, encodeChar (Char.ofNat n) = [UInt8.ofNat n] := by decide +kernel
  rw [hall b.toNat hb, UInt8.ofNat_toNat]

/-- A byte of ASCII is that of a character of ASCII. -/
theorem ofNat_of_mem_encodeChar {c : Char} {b : UInt8} (hmem : b ∈ encodeChar c)
    (hb : b.toNat < 0x80) : Char.ofNat b.toNat = c := by
  have hc := toNat_lt c
  unfold encodeChar at hmem
  simp only at hmem
  split at hmem
  · next hascii =>
    rw [List.mem_singleton.mp hmem, toNat_ofNat (by omega), Char.ofNat_toNat]
  · exfalso
    -- the other sequences have no byte below 0x80
    split at hmem
    · simp only [List.mem_cons, List.not_mem_nil, or_false] at hmem
      rcases hmem with rfl | rfl <;> rw [toNat_ofNat (by omega)] at hb <;> omega
    · split at hmem <;> simp only [List.mem_cons, List.not_mem_nil, or_false] at hmem
      · rcases hmem with rfl | rfl | rfl <;> rw [toNat_ofNat (by omega)] at hb <;> omega
      · rcases hmem with rfl | rfl | rfl | rfl <;> rw [toNat_ofNat (by omega)] at hb <;> omega

end Text.Utf8

namespace Percent

variable {kept : Char → Bool}

/-- What stands in a text with escapes: percent signs, digits of escapes, and bytes of ASCII
that are kept. -/
theorem mem_escapeBut {bs : List UInt8} {c : Char} (h : c ∈ escapeBut kept bs) :
    isKept c = true ∨ kept c = true ∧ ∃ b ∈ bs, b.toNat < 0x80 ∧ c = Char.ofNat b.toNat := by
  obtain ⟨b, hb, hc⟩ := List.mem_flatMap.mp h
  split at hc
  · next hkept =>
    rw [Bool.and_eq_true, decide_eq_true_eq] at hkept
    rw [List.mem_singleton] at hc
    exact .inr ⟨hc ▸ hkept.2, b, hb, hkept.1, hc⟩
  · exact .inl (escapeByte_kept b c hc)

/-- **Escapes are undone** wherever percent signs are escaped. -/
theorem bytes?_escapeBut (hpercent : kept '%' = false) : ∀ bs : List UInt8,
    bytes? (escapeBut kept bs) = some bs
  | [] => rfl
  | b :: bs => by
    have hbyte : bytes? (if b.toNat < 0x80 && kept (Char.ofNat b.toNat)
        then [Char.ofNat b.toNat] else escapeByte b) = some [b] := by
      split
      · next hkept =>
        rw [Bool.and_eq_true, decide_eq_true_eq] at hkept
        rw [bytes?_singleton (Text.ne_of_class hkept.2 hpercent),
          Text.Utf8.encodeChar_ofNat hkept.1]
      · exact bytes?_escapeByte b
    exact bytes?_append hbyte (bytes?_escapeBut hpercent bs)

end Percent

namespace Address

variable {cs : List Char} {names : List (List Char)}

/-! ### Segments and clean paths -/

theorem escapePath_append (xs ys : List Char) :
    escapePath (xs ++ ys) = escapePath xs ++ escapePath ys := by
  simp only [escapePath, Text.Utf8.encode, Percent.escapeBut, List.flatMap_append]

theorem escapePath_slash : escapePath ['/'] = ['/'] := by decide

theorem escapePath_root (cs : List Char) : escapePath ('/' :: cs) = '/' :: escapePath cs :=
  escapePath_append ['/'] cs

/-- No two paths are spelled alike. -/
theorem escapePath_injective {xs ys : List Char} (h : escapePath xs = escapePath ys) :
    xs = ys := by
  have hbytes := congrArg Percent.bytes? h
  rw [escapePath, escapePath, Percent.bytes?_escapeBut (by decide),
    Percent.bytes?_escapeBut (by decide), Option.some.injEq] at hbytes
  rw [← Text.Utf8.decode_encode xs, hbytes, Text.Utf8.decode_encode]

/-- Escaping makes no slashes. -/
theorem slash_mem_escapePath (h : '/' ∈ escapePath cs) : '/' ∈ cs := by
  rcases Percent.mem_escapeBut h with hkept | ⟨-, b, hb, hascii, hslash⟩
  · cases hkept
  · obtain ⟨c, hc, hbyte⟩ := List.mem_flatMap.mp hb
    rw [hslash, Text.Utf8.ofNat_of_mem_encodeChar hbyte hascii]
    exact hc

/-- A name stays a name. -/
theorem escapePath_isName (h : Path.IsName cs) : Path.IsName (escapePath cs) where
  ne_nil hnil := h.ne_nil (escapePath_injective (hnil.trans (by decide)))
  ne_dot hdot := h.ne_dot (escapePath_injective (hdot.trans (by decide)))
  ne_dots hdots := h.ne_dots (escapePath_injective (hdots.trans (by decide)))
  slash hslash := h.slash (slash_mem_escapePath hslash)

theorem escapePath_intercalate : ∀ names : List (List Char),
    escapePath (['/'].intercalate names) = ['/'].intercalate (names.map escapePath)
  | [] => rfl
  | [name] => by simp only [List.intercalate_singleton, List.map_cons, List.map_nil]
  | name :: next :: names => by
    simp only [List.map_cons, List.intercalate_cons_cons, escapePath_append, escapePath_slash,
      escapePath_intercalate (next :: names)]

theorem escapePath_write (names : List (List Char)) (slash : Bool) :
    escapePath (Path.write names slash) = Path.write (names.map escapePath) slash := by
  have hend (p : Prop) [Decidable p] :
      escapePath (if p then ['/'] else []) = if p then ['/'] else [] := by
    split
    · exact escapePath_slash
    · rfl
  simp only [Path.write, List.cons_append, escapePath_root, escapePath_append,
    escapePath_intercalate, hend, ne_eq, List.map_eq_nil_iff]

/-- **The spelling of a clean path is a clean path.** -/
theorem escapePath_isClean (h : Path.IsClean cs) : Path.IsClean (escapePath cs) := by
  obtain ⟨names, slash, hnames, rfl⟩ := h
  refine ⟨names.map escapePath, slash, ?_, escapePath_write names slash⟩
  rw [List.forall_mem_map]
  exact fun name hname => escapePath_isName (hnames name hname)

/-! ### Addresses of paths -/

/-- A character of a spelling. -/
theorem escapePath_char {c : Char} (h : c ∈ escapePath cs) : isPathChar c = true ∨ c = '%' := by
  rcases Percent.mem_escapeBut h with hkept | ⟨hpath, -⟩
  · simp only [Percent.isKept, Bool.or_eq_true, decide_eq_true_eq] at hkept
    rcases hkept with (hplain | rfl) | rfl
    · exact .inl (by simp only [isPathChar, hplain, Bool.true_or])
    · exact .inl (by decide)
    · exact .inr rfl
  · exact .inl hpath

theorem notMem_escapePath {x : Char} (hclass : isPathChar x = false) (hpercent : x ≠ '%') :
    x ∉ escapePath cs := by
  intro hmem
  rcases escapePath_char hmem with hx | hx
  · rw [hclass] at hx
    cases hx
  · exact hpercent hx

/-- A spelling can stand as it is. -/
theorem respelled_escapePath (cs : List Char) :
    respelled isPathChar (escapePath cs) = escapePath cs := by
  refine if_pos (List.all_eq_true.mpr fun c hc => ?_)
  rcases escapePath_char hc with hpath | rfl
  · rw [hpath, Bool.true_or]
  · decide

variable {query : Option (List Char)}

/-- **An address of a path in writing**: the spelling of the path, and the query. -/
theorem render_ofPath (cs : List Char) (query : Option (List Char)) :
    (ofPath ('/' :: cs) query).render =
      String.ofList (escapePath ('/' :: cs) ++ queryText query) := by
  have hpath : renderPath true (ofPath ('/' :: cs) query) = escapePath ('/' :: cs) := by
    have hrespelled := respelled_escapePath ('/' :: cs)
    rw [escapePath_root] at hrespelled
    simp only [renderPath, ofPath, escapePath_root, hrespelled]
    rfl
  have hwritten : (ofPath ('/' :: cs) query).render = String.ofList
      ([] ++ ([] ++ renderPath true (ofPath ('/' :: cs) query)) ++ queryText query ++ []) := by
    cases query <;> rfl
  rw [hwritten, hpath, List.append_nil, List.nil_append, List.nil_append]

theorem withPath_escapePath (a : Address) (cs : List Char) :
    a.withPath (escapePath cs) = .ok { a with spelledPath := escapePath cs } := by
  rw [withPath, unescape, escapePath, Percent.bytes?_escapeBut (by decide)]
  rfl

/-- A target that starts with a slash is a path, also with a second slash. -/
theorem hierarchy_ofPath (cs : List Char) (query : Option (List Char)) :
    hierarchy true { blank with query } (escapePath ('/' :: cs)) =
      .ok (ofPath ('/' :: cs) query) := by
  have hpath := withPath_escapePath { blank with query } ('/' :: cs)
  rw [ofPath, escapePath_root] at *
  unfold hierarchy
  split
  · exact hpath
  · exact hpath
  · next hno => exact absurd rfl (hno _)

theorem parseBody_ofPath (cs : List Char) (hquery : ∀ c ∈ queryText query, isControl c = false) :
    parseBody true (escapePath ('/' :: cs) ++ queryText query) =
      .ok (ofPath ('/' :: cs) query) := by
  have hchars : ∀ c ∈ escapePath ('/' :: cs), isControl c = false := by
    intro c hc
    rcases escapePath_char hc with hpath | rfl
    · exact not_control_of_class (by decide +kernel) hpath
    · decide
  have hcontrol : (escapePath ('/' :: cs) ++ queryText query).any isControl = false := by
    rw [List.any_eq_false]
    intro c hc
    rw [Bool.not_eq_true]
    exact (List.mem_append.mp hc).elim (hchars c) (hquery c)
  have hstar : escapePath ('/' :: cs) ++ queryText query ≠ ['*'] := by
    rw [escapePath_root]
    intro hstar
    cases hstar
  have hscheme : takeScheme (escapePath ('/' :: cs) ++ queryText query) =
      .ok ([], escapePath ('/' :: cs) ++ queryText query) := by
    rw [escapePath_root]
    rfl
  rw [parseBody, hcontrol, if_neg Bool.false_ne_true, if_neg hstar, hscheme]
  simp only [bind, Except.bind, cut_queryText (notMem_escapePath (by decide) (by decide))]
  exact hierarchy_ofPath cs query

/-- **As a target it is that address.** -/
theorem parseTarget?_ofPath (cs : List Char)
    (hquery : ∀ c ∈ queryText query, isControl c = false) :
    parseTarget? (ofPath ('/' :: cs) query).render = some (ofPath ('/' :: cs) query) := by
  rw [render_ofPath, parseTarget?, String.toList_ofList, parseBody_ofPath cs hquery]
  exact if_neg (by simp [ofPath, escapePath_root])

end Address
end PaymentGateway
