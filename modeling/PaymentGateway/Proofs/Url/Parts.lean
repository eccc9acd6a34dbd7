/-
# Addresses are read part by part

The scheme is what stands before the first colon, and no later part changes it
(`takeScheme_append`, `parse_scheme`). A host without escapes and brackets stands for itself,
provided that its last colon starts a port (`readHost_plain`); the slash after it starts the
path (`hierarchy_authority`). An address that is written without user information, escapes and
fragment therefore has the parts it is written with (`parse_parts`).

Key definitions: `Address.IsScheme`, `Address.PlainHost`, `Address.PlainPath`,
`Address.written`, `Address.ofParts`.
Key theorems: `Address.parse_scheme`, `Address.readHost_plain`, `Address.parse_parts`.
-/
import PaymentGateway.Proofs.Text.Splitting
import PaymentGateway.Proofs.Url.Form
import PaymentGateway.Url.Address

namespace PaymentGateway

namespace Percent

/-- Without a percent sign a text stands for its bytes. -/
theorem bytes?_plain : ∀ {cs : List Char}, '%' ∉ cs → bytes? cs = some (Text.Utf8.encode cs)
  | [], _ => rfl
  | c :: cs, h => by
    obtain ⟨hc, hcs⟩ := List.ne_and_not_mem_of_not_mem_cons h
    exact bytes?_cons hc.symm (bytes?_plain hcs)

theorem toNat_lt_of_isAlpha {c : Char} (h : c.isAlpha = true) : c.toNat < 128 := by
  have hcase : c.isUpper = true ∨ c.isLower = true := Bool.or_eq_true_iff.mp h
  rcases hcase with hupper | hlower
  · have hle : c.toNat ≤ 90 := (of_decide_eq_true hupper).2
    omega
  · have hrange := Bool.and_eq_true_iff.mp hlower
    have hle : c.toNat ≤ 122 := of_decide_eq_true hrange.2
    omega

theorem toNat_lt_of_unreserved {c : Char} (h : isUnreserved c = true) : c.toNat < 128 := by
  simp only [isUnreserved, isAlphanumeric, Bool.or_eq_true, decide_eq_true_eq] at h
  rcases h with ((((halpha | hdigit) | rfl) | rfl) | rfl) | rfl
  · exact toNat_lt_of_isAlpha halpha
  · have hle : c.toNat ≤ 57 := (Char.isDigit_iff_toNat.mp hdigit).2
    omega
  all_goals decide

end Percent

namespace Address

variable {a b : Address} {scheme host path rest : List Char} {query : Option (List Char)}

/-! ### The scheme -/

/-- A scheme starts with a letter. -/
structure IsScheme (scheme : List Char) : Prop where
  first : ∃ c, scheme.head? = some c ∧ c.isAlpha = true
  all : ∀ c ∈ scheme, isSchemeChar c = true

theorem IsScheme.ne_nil (h : IsScheme scheme) : scheme ≠ [] := by
  obtain ⟨c, hc, -⟩ := h.first
  rintro rfl
  cases hc

/-- Whatever follows its colon, an address with a scheme is more than one character. -/
theorem IsScheme.append_ne_singleton (h : IsScheme scheme) (rest : List Char) (x : Char) :
    scheme ++ ':' :: rest ≠ [x] := by
  intro hsingle
  rcases List.append_eq_singleton_iff.mp hsingle with ⟨hnil, -⟩ | ⟨-, hrest⟩
  · exact h.ne_nil hnil
  · cases hrest

/-- **The scheme is what stands before the colon.** -/
theorem takeScheme_append (hscheme : IsScheme scheme) (rest : List Char) :
    takeScheme (scheme ++ ':' :: rest) = .ok (scheme.map Char.toLower, rest) := by
  have hcolon : ∀ c, (':' :: rest).head? = some c → isSchemeChar c = false := by
    intro c hc
    cases hc
    decide
  obtain ⟨htake, hdrop⟩ := Text.span_append hscheme.all hcolon
  obtain ⟨c, hc, halpha⟩ := hscheme.first
  rw [takeScheme, htake, hdrop]
  cases scheme with
  | nil => cases hc
  | cons first name =>
    cases hc
    exact if_pos halpha

theorem withPath_keeps (h : a.withPath path = .ok b) : b.scheme = a.scheme ∧ b.query = a.query := by
  unfold withPath at h
  cases hpath : unescape path with
  | error f =>
    rw [hpath] at h
    cases h
  | ok bs =>
    rw [hpath] at h
    cases h
    exact ⟨rfl, rfl⟩

/-- Authority and path leave scheme and query as they are. -/
theorem hierarchy_keeps {isTarget : Bool} (h : hierarchy isTarget a rest = .ok b) :
    b.scheme = a.scheme ∧ b.query = a.query := by
  unfold hierarchy at h
  split at h
  · split at h
    · exact withPath_keeps h
    · cases hauthority : authority (List.takeWhile (· ≠ '/') _) with
      | error f =>
        rw [hauthority] at h
        cases h
      | ok found =>
        rw [hauthority] at h
        exact (withPath_keeps h :)
  · exact (withPath_keeps h :)
  · split at h
    · cases h
      exact ⟨rfl, rfl⟩
    · split at h
      · cases h
      · exact withPath_keeps h

theorem parseBody_scheme {isTarget : Bool} (hscheme : IsScheme scheme)
    (h : parseBody isTarget (scheme ++ ':' :: rest) = .ok a) :
    a.scheme = String.ofList (scheme.map Char.toLower) := by
  rw [parseBody, takeScheme_append hscheme] at h
  split at h
  · cases h
  · rw [if_neg (hscheme.append_ne_singleton rest '*')] at h
    exact (hierarchy_keeps h :).1

/-- A fragment is cut off first and comes back last. -/
theorem parse_some {s : String} (h : parse s = .ok a) :
    ∃ b, parseBody false (Text.cut '#' s.toList).1 = .ok b ∧
      a = { b with spelledFragment := (Text.cut '#' s.toList).2.getD [] } := by
  unfold parse at h
  simp only at h
  cases hbody : parseBody false (Text.cut '#' s.toList).1 with
  | error f =>
    rw [hbody] at h
    cases h
  | ok b =>
    rw [hbody] at h
    cases hspelled : unescape ((Text.cut '#' s.toList).2.getD []) with
    | error f =>
      rw [hspelled] at h
      cases h
    | ok bs =>
      rw [hspelled] at h
      cases h
      exact ⟨b, rfl, rfl⟩

/-- **The scheme of an address is what it is written with**, in lower case. -/
theorem parse_scheme (hscheme : IsScheme scheme)
    (h : parse (String.ofList (scheme ++ ':' :: rest)) = .ok a) :
    a.scheme = String.ofList (scheme.map Char.toLower) := by
  obtain ⟨b, hbody, rfl⟩ := parse_some h
  have hfragment : '#' ∉ scheme ++ [':'] :=
    List.not_mem_append (Text.notMem_of_class hscheme.all (by decide)) (by decide)
  rw [String.toList_ofList, List.append_cons, Text.cut_append_left hfragment,
    ← List.append_cons] at hbody
  exact (parseBody_scheme hscheme hbody :)

/-! ### The host -/

theorem cutLast_append {sep : Char} (before : List Char) {after : List Char} (h : sep ∉ after) :
    cutLast sep (before ++ sep :: after) = some (before, after) := by
  have hreverse : sep ∉ after.reverse := by rwa [List.mem_reverse]
  rw [cutLast, List.reverse_append, List.reverse_cons, List.append_assoc, List.singleton_append,
    Text.cut_append hreverse]
  simp

theorem cutLast_of_notMem {sep : Char} {cs : List Char} (h : sep ∉ cs) :
    cutLast sep cs = none := by
  have hreverse : sep ∉ cs.reverse := by rwa [List.mem_reverse]
  rw [cutLast, Text.cut_of_notMem hreverse]

theorem hostFault?_plain {allowed : UInt8 → Bool} : ∀ {host : List Char},
    (∀ c ∈ host, isHostChar c = true) → hostFault? allowed host = none
  | [], _ => rfl
  | c :: host, h => by
    obtain ⟨hc, hhost⟩ := List.forall_mem_cons.mp h
    have hpercent : c ≠ '%' := Text.ne_of_class hc (by decide)
    rw [hostFault?.eq_3 _ _ _ (fun _ _ _ hp _ => hpercent hp), if_neg hpercent, if_pos hc,
      hostFault?_plain hhost]

/-- A host without escapes and brackets, whose last colon starts a port. -/
structure PlainHost (host : List Char) : Prop where
  chars : ∀ c ∈ host, isHostChar c = true
  bracket : '[' ∉ host
  port : ∀ before port, cutLast ':' host = some (before, port) → port.all Char.isDigit = true

theorem PlainHost.notMem (h : PlainHost host) {x : Char} (hx : isHostChar x = false) : x ∉ host :=
  Text.notMem_of_class h.chars hx

/-- **A plain host stands for itself.** -/
theorem readHost_plain (h : PlainHost host) : readHost host = .ok (Text.Utf8.encode host) := by
  have hunescape : unescapeHost isHostEscape host = .ok (Text.Utf8.encode host) := by
    rw [unescapeHost, hostFault?_plain h.chars, Percent.bytes?_plain (h.notMem (by decide))]
    rfl
  have htail : host.tail.contains '[' = false := by
    rw [List.contains_eq_mem, decide_eq_false_iff_not]
    exact fun hmem => h.bracket (List.mem_of_mem_tail hmem)
  unfold readHost
  rw [htail, if_neg Bool.false_ne_true]
  split
  · exact absurd List.mem_cons_self h.bracket
  · split
    · next before port hcut =>
      have hport : isPort (':' :: port) = true := h.port before port hcut
      rw [if_pos hport, hunescape]
    · exact hunescape

/-! ### Host, path and query -/

/-- A path without escapes that a slash starts, if it is not empty. -/
structure PlainPath (path : List Char) : Prop where
  root : ∀ c, path.head? = some c → c = '/'
  chars : ∀ c ∈ path, isControl c = false ∧ c ∉ ['%', '?', '#']

theorem PlainPath.notMem (h : PlainPath path) {x : Char} (hx : x ∈ ['%', '?', '#']) :
    x ∉ path :=
  fun hmem => (h.chars x hmem).2 hx

/-- After a scheme, two slashes start the authority and the next one the path. -/
theorem hierarchy_authority {isTarget : Bool} (hscheme : a.scheme ≠ "") (hhost : PlainHost host)
    (hpath : PlainPath path) : hierarchy isTarget a ('/' :: '/' :: (host ++ path)) =
      .ok { a with user := none, hostBytes := Text.Utf8.encode host, spelledPath := path } := by
  have hslash : '/' ∉ host := hhost.notMem (by decide)
  have huser : '@' ∉ host := hhost.notMem (by decide)
  have hescape : '%' ∉ path := hpath.notMem (by decide)
  have hbefore : ∀ c ∈ host, decide (c ≠ '/') = true :=
    fun c hc => decide_eq_true fun heq => hslash (heq ▸ hc)
  have hafter : ∀ c, path.head? = some c → decide (c ≠ '/') = false := by
    intro c hc
    simp [hpath.root c hc]
  obtain ⟨htake, hdrop⟩ := Text.span_append hbefore hafter
  have hauthority : authority host = .ok (none, Text.Utf8.encode host) := by
    rw [authority, cutLast_of_notMem huser, readHost_plain hhost]
    rfl
  rw [hierarchy, htake, hdrop, hauthority]
  simp only [hscheme, decide_false, Bool.false_and, Bool.false_eq_true, ↓reduceIte]
  show withPath _ path = _
  rw [withPath, unescape, Percent.bytes?_plain hescape]
  rfl

/-- A query in writing. -/
def queryText : Option (List Char) → List Char
  | none => []
  | some q => '?' :: q

theorem cut_queryText (hrest : '?' ∉ rest) (query : Option (List Char)) :
    Text.cut '?' (rest ++ queryText query) = (rest, query) := by
  cases query with
  | none => rw [queryText, List.append_nil, Text.cut_of_notMem hrest]
  | some q => exact Text.cut_append hrest q

/-- A class of characters has no control characters if it has none of ASCII. -/
theorem not_control_of_class {p : Char → Bool}
    (hp : ∀ n < 128, p (Char.ofNat n) = true → isControl (Char.ofNat n) = false) {c : Char}
    (hc : p c = true) : isControl c = false := by
  by_cases hascii : c.toNat < 128
  · exact Text.disjoint_ascii hp hascii hc
  · simp only [isControl, Bool.or_eq_false_iff, decide_eq_false_iff_not]
    omega

/-- Characters that neither fail an address nor start its fragment. -/
def IsPlain (cs : List Char) : Prop := ∀ c ∈ cs, isControl c = false ∧ c ≠ '#'

theorem IsScheme.isPlain (h : IsScheme scheme) : IsPlain scheme := fun c hc =>
  ⟨not_control_of_class (by decide +kernel) (h.all c hc),
    Text.ne_of_class (h.all c hc) (by decide)⟩

theorem PlainHost.isPlain (h : PlainHost host) : IsPlain host := fun c hc =>
  ⟨not_control_of_class (by decide +kernel) (h.chars c hc),
    Text.ne_of_class (h.chars c hc) (by decide)⟩

theorem PlainPath.isPlain (h : PlainPath path) : IsPlain path := by
  intro c hc
  obtain ⟨hcontrol, hmark⟩ := h.chars c hc
  refine ⟨hcontrol, ?_⟩
  rintro rfl
  exact hmark (by decide)

/-- An address in writing, without user information, escapes and fragment. -/
def written (scheme host path : List Char) (query : Option (List Char)) : List Char :=
  scheme ++ ':' :: '/' :: '/' :: (host ++ path ++ queryText query)

/-- The address with these parts. -/
def ofParts (scheme host path : List Char) (query : Option (List Char)) : Address :=
  { blank with
    scheme := String.ofList (scheme.map Char.toLower), hostBytes := Text.Utf8.encode host
    spelledPath := path, query }

theorem host_ofParts (scheme host path : List Char) (query : Option (List Char)) :
    (ofParts scheme host path query).host = String.ofList host := by
  rw [Address.host, Text.Utf8.text]
  exact congrArg String.ofList (Text.Utf8.decode_encode host)

theorem path_ofParts (hpath : PlainPath path) (scheme host : List Char)
    (query : Option (List Char)) :
    (ofParts scheme host path query).path = String.ofList path := by
  have hbytes : (ofParts scheme host path query).pathBytes = Text.Utf8.encode path := by
    show (Percent.bytes? path).getD [] = Text.Utf8.encode path
    rw [Percent.bytes?_plain (hpath.notMem (by decide)), Option.getD_some]
  rw [Address.path, hbytes, Text.Utf8.text, Text.Utf8.decode_encode]

theorem isPlain_written (hscheme : IsScheme scheme) (hhost : PlainHost host)
    (hpath : PlainPath path) (hquery : IsPlain (queryText query)) :
    IsPlain (written scheme host path query) := by
  simp only [IsPlain, written, List.forall_mem_append, List.forall_mem_cons]
  exact ⟨hscheme.isPlain, by decide, by decide, by decide, ⟨hhost.isPlain, hpath.isPlain⟩, hquery⟩

theorem parseBody_parts {isTarget : Bool} (hscheme : IsScheme scheme) (hhost : PlainHost host)
    (hpath : PlainPath path) (hquery : IsPlain (queryText query)) :
    parseBody isTarget (written scheme host path query) =
      .ok (ofParts scheme host path query) := by
  have hcontrol : (written scheme host path query).any isControl = false :=
    List.any_eq_false.mpr fun c hc =>
      Bool.eq_false_iff.mp (isPlain_written hscheme hhost hpath hquery c hc).1
  have hmark : '?' ∉ '/' :: '/' :: (host ++ path) := by
    have hparts : '?' ∉ host ++ path :=
      List.not_mem_append (hhost.notMem (by decide)) (hpath.notMem (by decide))
    simpa using hparts
  have hcut : Text.cut '?' ('/' :: '/' :: (host ++ path ++ queryText query)) =
      ('/' :: '/' :: (host ++ path), query) := cut_queryText hmark query
  have hname : String.ofList (scheme.map Char.toLower) ≠ "" := by
    rw [ne_eq, String.ofList_eq_empty_iff, List.map_eq_nil_iff]
    exact hscheme.ne_nil
  rw [parseBody, hcontrol, if_neg Bool.false_ne_true, written,
    if_neg (hscheme.append_ne_singleton _ '*'), takeScheme_append hscheme]
  simp only [bind, Except.bind, hcut]
  exact hierarchy_authority hname hhost hpath

/-- **An address has the parts it is written with.** -/
theorem parse_parts (hscheme : IsScheme scheme) (hhost : PlainHost host) (hpath : PlainPath path)
    (hquery : IsPlain (queryText query)) :
    parse (String.ofList (written scheme host path query)) =
      .ok (ofParts scheme host path query) := by
  have hfragment : '#' ∉ written scheme host path query :=
    fun hc => (isPlain_written hscheme hhost hpath hquery '#' hc).2 rfl
  rw [parse, String.toList_ofList, Text.cut_of_notMem hfragment]
  simp only [parseBody_parts hscheme hhost hpath hquery]
  rfl

end Address
end PaymentGateway
