/-
# Endpoints are read as they are written

An endpoint may be a full address (`Endpoint.Url`). All that its parts are made of stands for
itself in an address, and none of it is white space, so the parts come back whatever white
space is around them (`ofText_url`). Any other text is a host (`ofText_host`). Whatever the
text, the reading leaves neither host nor path open (`ofText_ne_empty`), and the connection is
in the clear unless the text starts with `https://` (`https_of_secure`).

Key definitions: `Endpoint.Url`, `Endpoint.Url.text`.
Key theorems: `Endpoint.ofText_url`, `Endpoint.https_of_secure`, `Endpoint.ofText_exact`.
-/
import PaymentGateway.Proofs.Url.Parts
import PaymentGateway.Telemetry

namespace PaymentGateway
namespace Endpoint

/-! ### The characters of an endpoint -/

/-- A character of a host's name: a letter or digit of ASCII, a dot or a dash. -/
def isNameChar (c : Char) : Bool := Percent.isAlphanumeric c || c = '.' || c = '-'

/-- A character of a path or query: a letter or digit, one of `-_.~/`, or any character outside
ASCII that is not white space. -/
def isPathChar (c : Char) : Bool :=
  Percent.isUnreserved c || c = '/' || (0x80 ≤ c.toNat && !Text.isBlank c)

variable {c : Char}

theorem unreserved_of_isNameChar (h : isNameChar c = true) : Percent.isUnreserved c = true := by
  simp only [isNameChar, Bool.or_eq_true, decide_eq_true_eq] at h
  rcases h with (halpha | rfl) | rfl
  · simp [Percent.isUnreserved, halpha]
  · decide
  · decide

theorem unreserved_of_isDigit (h : c.isDigit = true) : Percent.isUnreserved c = true := by
  simp [Percent.isUnreserved, Percent.isAlphanumeric, h]

theorem isPathChar_of_unreserved (h : Percent.isUnreserved c = true) : isPathChar c = true := by
  simp [isPathChar, h]

theorem not_blank_of_isPathChar (h : isPathChar c = true) : Text.isBlank c = false := by
  by_cases hascii : c.toNat < 128
  · exact Text.disjoint_ascii (by decide +kernel) hascii h
  · simp only [isPathChar, Bool.or_eq_true, Bool.and_eq_true, decide_eq_true_eq,
      Bool.not_eq_true'] at h
    rcases h with (hplain | rfl) | hother
    · exact absurd (Percent.toNat_lt_of_unreserved hplain) hascii
    · decide
    · exact hother.2

theorem not_blank_of_unreserved (h : Percent.isUnreserved c = true) : Text.isBlank c = false :=
  not_blank_of_isPathChar (isPathChar_of_unreserved h)

theorem not_control_of_isPathChar (h : isPathChar c = true) : Address.isControl c = false :=
  Address.not_control_of_class (by decide +kernel) h

theorem isScheme_http : Address.IsScheme "http".toList where
  first := ⟨'h', rfl, rfl⟩
  all := List.all_eq_true.mp (by decide)

theorem isScheme_https : Address.IsScheme "https".toList where
  first := ⟨'h', rfl, rfl⟩
  all := List.all_eq_true.mp (by decide)

/-! ### Endpoints as full addresses -/

/-- An endpoint as a full address: one of the two schemes, a host's name with a port of digits
or without one, a path that is empty or starts with a slash, and perhaps a query. -/
structure Url where
  secure : Bool
  name : List Char
  port : Option (List Char)
  path : List Char
  query : Option (List Char)
  name_ne_nil : name ≠ []
  name_chars : ∀ c ∈ name, isNameChar c = true
  port_digits : ∀ digits ∈ port, ∀ c ∈ digits, c.isDigit = true
  path_root : path = [] ∨ path.head? = some '/'
  path_chars : ∀ c ∈ path, isPathChar c = true
  query_chars : ∀ q ∈ query, ∀ c ∈ q, isPathChar c = true

namespace Url

variable (u : Url)

/-- The scheme. -/
def scheme : List Char := if u.secure then "https".toList else "http".toList

/-- The host: its name, with the port if there is one. -/
def host : List Char :=
  match u.port with
  | none => u.name
  | some digits => u.name ++ ':' :: digits

/-- The address in writing. -/
def text : List Char := Address.written u.scheme u.host u.path u.query

theorem isScheme_scheme : Address.IsScheme u.scheme := by
  unfold scheme
  split
  · exact isScheme_https
  · exact isScheme_http

theorem host_ne_nil : u.host ≠ [] := by
  have hname := u.name_ne_nil
  unfold host
  split
  · exact hname
  · simp [hname]

theorem host_chars : ∀ c ∈ u.host, Percent.isUnreserved c = true ∨ c = ':' := by
  intro c hc
  unfold host at hc
  split at hc
  · exact .inl (unreserved_of_isNameChar (u.name_chars c hc))
  · next digits hport =>
    rcases List.mem_append.mp hc with hname | hrest
    · exact .inl (unreserved_of_isNameChar (u.name_chars c hname))
    · rcases List.mem_cons.mp hrest with hcolon | hdigit
      · exact .inr hcolon
      · exact .inl (unreserved_of_isDigit (u.port_digits digits hport c hdigit))

/-- The last colon of the host starts its port. -/
theorem host_port {before port : List Char}
    (h : Address.cutLast ':' u.host = some (before, port)) : port.all Char.isDigit = true := by
  unfold host at h
  split at h
  · have hcolon : ':' ∉ u.name := Text.notMem_of_class u.name_chars (by decide)
    rw [Address.cutLast_of_notMem hcolon] at h
    cases h
  · next digits hport =>
    have hdigits := u.port_digits digits hport
    have hcolon : ':' ∉ digits := Text.notMem_of_class hdigits (by decide)
    rw [Address.cutLast_append u.name hcolon] at h
    cases h
    exact List.all_eq_true.mpr hdigits

theorem plainHost : Address.PlainHost u.host where
  chars c hc := by
    rcases u.host_chars c hc with hplain | rfl
    · simp [Address.isHostChar, Address.isPlainHostChar, hplain]
    · decide
  bracket hmem := by
    rcases u.host_chars '[' hmem with hplain | hcolon
    · revert hplain
      decide
    · cases hcolon
  port _ _ h := u.host_port h

theorem plainPath : Address.PlainPath u.path where
  root c hc := by
    rcases u.path_root with hnil | hslash
    · rw [hnil] at hc
      cases hc
    · rw [hslash] at hc
      cases hc
      rfl
  chars c hc := by
    have hplain := u.path_chars c hc
    refine ⟨not_control_of_isPathChar hplain, ?_⟩
    simp only [List.mem_cons, List.not_mem_nil, or_false, not_or]
    exact ⟨Text.ne_of_class hplain (by decide), Text.ne_of_class hplain (by decide),
      Text.ne_of_class hplain (by decide)⟩

theorem query_text_chars : ∀ c ∈ Address.queryText u.query, isPathChar c = true ∨ c = '?' := by
  intro c hc
  cases hquery : u.query with
  | none =>
    rw [hquery] at hc
    cases hc
  | some q =>
    rw [hquery] at hc
    rcases List.mem_cons.mp hc with hmark | hmem
    · exact .inr hmark
    · exact .inl (u.query_chars q hquery c hmem)

theorem plainQuery : Address.IsPlain (Address.queryText u.query) := by
  intro c hc
  rcases u.query_text_chars c hc with hplain | rfl
  · exact ⟨not_control_of_isPathChar hplain, Text.ne_of_class hplain (by decide)⟩
  · decide

/-- The address has the parts it is made of. -/
theorem parse_text : Address.parse (String.ofList u.text) =
    .ok (Address.ofParts u.scheme u.host u.path u.query) :=
  Address.parse_parts u.isScheme_scheme u.plainHost u.plainPath u.plainQuery

/-- No part of the address is white space. -/
theorem text_not_blank : ∀ c ∈ u.text, Text.isBlank c = false := by
  have hscheme : ∀ c ∈ u.scheme, Text.isBlank c = false := by
    have hname : u.scheme.all isNameChar = true := by
      unfold scheme
      split <;> decide
    intro c hc
    exact not_blank_of_unreserved (unreserved_of_isNameChar (List.all_eq_true.mp hname c hc))
  have hhost : ∀ c ∈ u.host, Text.isBlank c = false := by
    intro c hc
    rcases u.host_chars c hc with hplain | rfl
    · exact not_blank_of_unreserved hplain
    · decide
  have hpath : ∀ c ∈ u.path, Text.isBlank c = false :=
    fun c hc => not_blank_of_isPathChar (u.path_chars c hc)
  have hquery : ∀ c ∈ Address.queryText u.query, Text.isBlank c = false := by
    intro c hc
    rcases u.query_text_chars c hc with hplain | rfl
    · exact not_blank_of_isPathChar hplain
    · decide
  simp only [text, Address.written, List.forall_mem_append, List.forall_mem_cons]
  exact ⟨hscheme, by decide, by decide, by decide, ⟨hhost, hpath⟩, hquery⟩

theorem hasScheme_text : hasScheme (String.ofList u.text) = true := by
  rw [hasScheme, String.toList_ofList, text, Address.written, scheme]
  cases u.secure <;> simp

/-- The endpoint that the address names. -/
def endpoint : Endpoint where
  host := String.ofList u.host
  path := if u.path = [] then "/v1/traces" else String.ofList u.path
  insecure := !u.secure

theorem ofAddress_ofParts :
    ofAddress (Address.ofParts u.scheme u.host u.path u.query) = u.endpoint := by
  have hhost : String.ofList u.host ≠ "" := by
    rw [ne_eq, String.ofList_eq_empty_iff]
    exact u.host_ne_nil
  have hscheme : (Address.ofParts u.scheme u.host u.path u.query).scheme =
      if u.secure then "https" else "http" := by
    show String.ofList (u.scheme.map Char.toLower) = _
    rw [scheme]
    cases u.secure <;> rfl
  rw [ofAddress, Address.host_ofParts, Address.path_ofParts u.plainPath, hscheme, if_neg hhost,
    endpoint]
  simp only [String.ofList_eq_empty_iff]
  cases u.secure <;> rfl

end Url

/-! ### Reading an endpoint -/

theorem hasScheme_iff {s : String} : hasScheme s = true ↔
    "http://".toList <+: s.toList ∨ "https://".toList <+: s.toList := by
  rw [hasScheme, Bool.or_eq_true, List.isPrefixOf_iff_prefix, List.isPrefixOf_iff_prefix]

/-- **A full address is read as it is written.** -/
theorem ofText_url (u : Url) {before after : List Char}
    (hbefore : ∀ c ∈ before, Text.isBlank c = true) (hafter : ∀ c ∈ after, Text.isBlank c = true) :
    ofText (String.ofList (before ++ u.text ++ after)) = u.endpoint := by
  have htrim := Text.trim_append hbefore (Text.bare_of_none u.text_not_blank) hafter
  have hsome : String.ofList u.text ≠ "" := by
    rw [ne_eq, String.ofList_eq_empty_iff, Url.text, Address.written]
    simp
  rw [ofText, htrim, if_neg hsome, if_pos u.hasScheme_text, u.parse_text]
  exact u.ofAddress_ofParts

/-- **Any other text is a host.** -/
theorem ofText_host {raw : String} (hraw : ∃ c ∈ raw.toList, Text.isBlank c = false)
    (hscheme : hasScheme (Text.trim raw) = false) :
    ofText raw = ⟨Text.trim raw, "/v1/traces", true⟩ := by
  have hsome : Text.trim raw ≠ "" := by
    rw [ne_eq, Text.trim_eq_empty_iff]
    simpa using hraw
  rw [ofText, if_neg hsome, hscheme, if_neg Bool.false_ne_true]
  rfl

theorem fallback_ne_empty {s fallback : String} (h : fallback ≠ "") :
    (if s = "" then fallback else s) ≠ "" := by
  split
  · exact h
  · assumption

/-- **Neither host nor path is ever left open.** -/
theorem ofText_ne_empty (raw : String) : (ofText raw).host ≠ "" ∧ (ofText raw).path ≠ "" := by
  have hdefault : default.host ≠ "" ∧ default.path ≠ "" := by decide
  unfold ofText
  simp only
  split
  · exact hdefault
  · next hsome =>
    split
    · split
      · exact ⟨fallback_ne_empty hdefault.1, fallback_ne_empty hdefault.2⟩
      · exact hdefault
    · exact ⟨hsome, hdefault.2⟩

/-- **A connection is in the clear unless the text starts with `https://`.** -/
theorem https_of_secure {raw : String} (h : (ofText raw).insecure = false) :
    "https://".toList <+: (Text.trim raw).toList := by
  unfold ofText at h
  simp only at h
  split at h
  · cases h
  · split at h
    · next hscheme =>
      split at h
      · next a ha =>
        rcases hasScheme_iff.mp hscheme with ⟨rest, hrest⟩ | hhttps
        · -- the scheme of an address that starts with `http://` is read as such
          have htext : Text.trim raw =
              String.ofList ("http".toList ++ ':' :: ('/' :: '/' :: rest)) := by
            rw [← String.ofList_toList (s := Text.trim raw), ← hrest]
            rfl
          rw [htext] at ha
          have hname : a.scheme = "http" := Address.parse_scheme isScheme_http ha
          have hclear : (ofAddress a).insecure = true := decide_eq_true hname
          rw [hclear] at h
          cases h
        · exact hhttps
      · cases h
    · cases h

/-- **Endpoints are read as they are written.** A full address gives its host with the port,
its path, or the usual one when it has none, and a connection in the clear exactly if its scheme
is `http`, whatever its query and the white space around it. A text that is not blank and has
neither scheme in front is a host as a whole. And whatever the text, host and path are given,
and the connection is in the clear unless the text starts with `https://`. -/
theorem ofText_exact :
    (∀ (u : Url) (before after : List Char), (∀ c ∈ before, Text.isBlank c = true) →
      (∀ c ∈ after, Text.isBlank c = true) →
      ofText (String.ofList (before ++ u.text ++ after)) =
        { host := String.ofList u.host
          path := if u.path = [] then "/v1/traces" else String.ofList u.path
          insecure := !u.secure }) ∧
    (∀ raw, (∃ c ∈ raw.toList, Text.isBlank c = false) →
      ¬ "http://".toList <+: (Text.trim raw).toList →
      ¬ "https://".toList <+: (Text.trim raw).toList →
      ofText raw = { host := Text.trim raw, path := "/v1/traces", insecure := true }) ∧
    ∀ raw, (ofText raw).host ≠ "" ∧ (ofText raw).path ≠ "" ∧
      ((ofText raw).insecure = false → "https://".toList <+: (Text.trim raw).toList) := by
  refine ⟨fun u before after hbefore hafter => ofText_url u hbefore hafter, ?_, ?_⟩
  · intro raw hraw hhttp hhttps
    apply ofText_host hraw
    rw [← Bool.not_eq_true, hasScheme_iff]
    exact not_or.mpr ⟨hhttp, hhttps⟩
  · intro raw
    obtain ⟨hhost, hpath⟩ := ofText_ne_empty raw
    exact ⟨hhost, hpath, https_of_secure⟩

/-- A name with capitals, a port with a leading zero, an empty segment and a query, between
white space; a host that is nearly an address; and an address that cannot be read. -/
theorem ofText_exact_spaced :
    let raw := "\u00A0\nhttps://Otel-1.example:04318/v1//custom~?a/b\u3000"
    ofText raw = ⟨"Otel-1.example:04318", "/v1//custom~", false⟩ ∧
      "https://".toList <+: (Text.trim raw).toList ∧
      ofText " https:/x " = ⟨"https:/x", "/v1/traces", true⟩ ∧ (ofText "https://%").host ≠ "" := by
  intro raw
  have hport : ∀ digits ∈ some "04318".toList, ∀ c ∈ digits, c.isDigit = true := by
    rintro digits ⟨⟩
    exact List.all_eq_true.mp (by decide)
  have hquery : ∀ q ∈ some "a/b".toList, ∀ c ∈ q, isPathChar c = true := by
    rintro q ⟨⟩
    exact List.all_eq_true.mp (by decide)
  let u : Url :=
    { secure := true, name := "Otel-1.example".toList, port := some "04318".toList
      path := "/v1//custom~".toList, query := some "a/b".toList, name_ne_nil := by decide
      name_chars := List.all_eq_true.mp (by decide), port_digits := hport
      path_root := .inr rfl, path_chars := List.all_eq_true.mp (by decide)
      query_chars := hquery }
  obtain ⟨hurl, hhost, hany⟩ := ofText_exact
  have hraw : ofText raw = ⟨"Otel-1.example:04318", "/v1//custom~", false⟩ :=
    hurl u ['\u00A0', '\n'] ['\u3000'] (List.all_eq_true.mp (by decide))
      (List.all_eq_true.mp (by decide))
  refine ⟨hraw, (hany raw).2.2 (by rw [hraw]), ?_, (hany _).1⟩
  exact hhost " https:/x " ⟨'x', by decide, by decide⟩ (by decide) (by decide)

end Endpoint
end PaymentGateway
