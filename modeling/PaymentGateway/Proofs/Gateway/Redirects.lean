/-
# A request is sent on once

A request is sent on exactly if its path is not clean (`moved?_isSome_iff`), whether or not
something is to be found at the clean path. The address it is sent to has the spelling of the
clean path, which is a clean path itself, and a query without control characters, since the
target it comes from had none. So who follows is not sent on again (`of_followed`): no request
is sent around in a circle.

Key theorems: `Http.Route.moved?_isSome_iff`, `Http.Route.moved?_followed`,
`Http.Route.of_followed`.
-/
import PaymentGateway.Http.Route
import PaymentGateway.Proofs.Url.Spelling

namespace PaymentGateway

namespace Address

variable {a : Address}

/-! ### The query of a target -/

/-- What follows the scheme is the end of the text. -/
theorem takeScheme_suffix {body scheme rest : List Char}
    (h : takeScheme body = .ok (scheme, rest)) : rest <:+ body := by
  unfold takeScheme at h
  split at h
  · cases h
  · next hdrop =>
    split at h
    · cases h
      have hsuffix : ':' :: rest <:+ body := hdrop ▸ List.dropWhile_suffix isSchemeChar
      exact (List.suffix_cons ':' rest).trans hsuffix
    · cases h
      exact List.suffix_refl body
  · cases h
    exact List.suffix_refl body

/-- The query is the end of the text that it is cut from. -/
theorem cut_append_queryText : ∀ rest : List Char,
    (Text.cut '?' rest).1 ++ queryText (Text.cut '?' rest).2 = rest
  | [] => rfl
  | c :: rest => by
    rw [Text.cut]
    split
    · next hmark => exact congrArg (· :: rest) hmark.symm
    · exact congrArg (c :: ·) (cut_append_queryText rest)

theorem mem_queryText_of_filter {query : Option (List Char)} {p : List Char → Bool} {c : Char}
    (h : c ∈ queryText (query.filter p)) : c ∈ queryText query := by
  cases query with
  | none => exact h
  | some q =>
    rw [Option.filter_some] at h
    split at h
    · exact h
    · cases h

/-- A query is part of the text that it is read from. -/
theorem query_of_parseBody {isTarget : Bool} {body : List Char}
    (h : parseBody isTarget body = .ok a) : ∀ c ∈ queryText a.query, isControl c = false := by
  unfold parseBody at h
  split at h
  · cases h
  · next hcontrol =>
    split at h
    · cases h
      exact fun c hc => nomatch hc
    · cases hscheme : takeScheme body with
      | error f =>
        rw [hscheme] at h
        cases h
      | ok parts =>
        obtain ⟨scheme, rest⟩ := parts
        rw [hscheme] at h
        have hquery : a.query = (Text.cut '?' rest).2 := (hierarchy_keeps h :).2
        intro c hc
        have hrest : c ∈ rest := by
          rw [← cut_append_queryText rest, ← hquery]
          exact List.mem_append_right _ hc
        have hbody : c ∈ body := (takeScheme_suffix hscheme).subset hrest
        exact Bool.eq_false_iff.mpr fun hc => hcontrol (List.any_eq_true.mpr ⟨c, hbody, hc⟩)

theorem query_of_parseTarget? {target : String} (h : parseTarget? target = some a) :
    ∀ c ∈ queryText a.query, isControl c = false := by
  unfold parseTarget? at h
  split at h
  · next b hbody =>
    split at h
    · cases h
    · cases h
      exact query_of_parseBody hbody
  · cases h

end Address

namespace Http
namespace Route

open Address

variable {r : Request} {url : String}

/-- **A request is sent on exactly if its path is not clean**, unless it is a CONNECT. -/
theorem moved?_isSome_iff : (moved? r).isSome ↔ r.method ≠ "CONNECT" ∧
    ∃ a, parseTarget? r.target = some a ∧ ¬ Path.IsClean (writtenPath a) := by
  cases htarget : parseTarget? r.target with
  | none => simp [moved?, htarget]
  | some a =>
    simp only [moved?, htarget, Option.bind_eq_bind, Option.bind_some, ← Path.clean_eq_self_iff,
      Option.some.injEq, exists_eq_left']
    split
    · next hstays => simpa using fun hmethod => hstays.resolve_left hmethod
    · next hmoves => simpa using not_or.mp hmoves

/-- The new address is the spelling of a clean path. -/
theorem exists_ofPath (h : moved? r = some url) : ∃ cs query, Path.IsClean ('/' :: cs) ∧
    (∀ c ∈ queryText query, isControl c = false) ∧ url = (ofPath ('/' :: cs) query).render := by
  obtain ⟨a, htarget, hmoved⟩ := Option.bind_eq_some_iff.mp h
  split at hmoved
  · cases hmoved
  · obtain ⟨cs, hcs⟩ := Path.clean_root (writtenPath a)
    have hclean := Path.clean_isClean (writtenPath a)
    rw [cleaned, hcs] at hmoved
    rw [hcs] at hclean
    have hquery : ∀ c ∈ queryText (a.query.filter fun q => !q.isEmpty), isControl c = false :=
      fun c hc => query_of_parseTarget? htarget c (mem_queryText_of_filter hc)
    exact ⟨cs, _, hclean, hquery, (Option.some.inj hmoved).symm⟩

/-- **Who is sent on is not sent on again.** -/
theorem moved?_followed (h : moved? r = some url) : moved? { r with target := url } = none := by
  obtain ⟨cs, query, hclean, hquery, rfl⟩ := exists_ofPath h
  rw [← Option.not_isSome_iff_eq_none, moved?_isSome_iff]
  rintro ⟨-, a, htarget, hunclean⟩
  rw [parseTarget?_ofPath cs hquery, Option.some.injEq] at htarget
  have hpath : writtenPath a = escapePath ('/' :: cs) := by
    rw [← htarget]
    exact respelled_escapePath _
  rw [hpath] at hunclean
  exact hunclean (escapePath_isClean hclean)

theorem moved?_of_moved (h : Route.of r = .moved url) : moved? r = some url := by
  unfold Route.of at h
  split at h
  · cases h
  · split at h
    · next hmoved =>
      cases h
      exact hmoved
    · split at h
      · cases h
      · split at h <;> cases h

/-- **No request is sent around in a circle.** -/
theorem of_followed (h : Route.of r = .moved url) (again : String) :
    Route.of { r with target := url } ≠ .moved again := by
  intro hagain
  have hnone := moved?_followed (moved?_of_moved h)
  rw [moved?_of_moved hagain] at hnone
  cases hnone

/-- An escape counts as it is written, so its percent sign is escaped in the new address. -/
example : Route.of ⟨"POST", "http://shop//payments/../%70ay/./?retry=1", [], []⟩ =
    .moved "/%2570ay/?retry=1" := by
  decide +kernel

end Route
end Http
end PaymentGateway
