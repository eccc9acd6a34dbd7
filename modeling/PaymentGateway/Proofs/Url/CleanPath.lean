/-
# Cleaning leaves clean paths

A path is clean if it goes from the root through names only (`Path.IsClean`): no segment is
empty, `.` or `..`, but for a slash at the end. What is kept of a path are names, since a
segment that is no name is dropped when it is read (`segments_isName`); and names stay, since
none of them takes another back (`segments_write`). So cleaning makes every path clean, and
the clean paths are those that it leaves as they are (`clean_eq_self_iff`).

Key definitions: `Path.IsName`, `Path.IsClean`.
Key theorems: `Path.segments_isName`, `Path.segments_write`, `Path.clean_write`,
`Path.clean_isClean`, `Path.clean_eq_self_iff`, `Path.clean_clean`.
-/
import PaymentGateway.Proofs.Text.Splitting
import PaymentGateway.Url.CleanPath

namespace PaymentGateway
namespace Path

/-- A segment that says something by itself. -/
structure IsName (segment : List Char) : Prop where
  ne_nil : segment ≠ []
  ne_dot : segment ≠ ['.']
  ne_dots : segment ≠ ['.', '.']
  slash : '/' ∉ segment

/-- **A clean path**: names one after the other from the root on. -/
def IsClean (path : List Char) : Prop :=
  ∃ names slash, (∀ name ∈ names, IsName name) ∧ path = write names slash

variable {names kept : List (List Char)} {segment : List Char}

/-! ### Names are kept, and nothing else -/

/-- One segment: what is kept stays names. -/
theorem keep_isName (hkept : ∀ name ∈ kept, IsName name) (hsegment : '/' ∉ segment) :
    ∀ name ∈ keep kept segment, IsName name := by
  unfold keep
  split
  · exact hkept
  · next hsays =>
    split
    · exact fun name hname => hkept name (List.mem_of_mem_tail hname)
    · next hdots =>
      obtain ⟨hnil, hdot⟩ := not_or.mp hsays
      exact List.forall_mem_cons.mpr ⟨⟨hnil, hdot, hdots, hsegment⟩, hkept⟩

/-- All segments. -/
theorem foldl_keep_isName : ∀ (segments : List (List Char)) {kept : List (List Char)},
    (∀ name ∈ kept, IsName name) → (∀ segment ∈ segments, '/' ∉ segment) →
    ∀ name ∈ segments.foldl keep kept, IsName name
  | [], _, hkept, _ => hkept
  | _ :: segments, _, hkept, hsegments => by
    obtain ⟨hfirst, hrest⟩ := List.forall_mem_cons.mp hsegments
    exact foldl_keep_isName segments (keep_isName hkept hfirst) hrest

/-- **The segments that are left of a path are names.** -/
theorem segments_isName (path : List Char) : ∀ name ∈ segments path, IsName name := by
  intro name hname
  rw [segments, List.mem_reverse, Text.split_eq_splitOn] at hname
  have hslash : ∀ segment ∈ path.splitOn '/', '/' ∉ segment :=
    fun _ => Text.notMem_of_mem_splitOn
  exact foldl_keep_isName _ (List.forall_mem_nil IsName) hslash name hname

theorem keep_name {name : List Char} (h : IsName name) : keep kept name = name :: kept := by
  rw [keep, if_neg (not_or.mpr ⟨h.ne_nil, h.ne_dot⟩), if_neg h.ne_dots]

theorem foldl_keep_names : ∀ {names kept : List (List Char)}, (∀ name ∈ names, IsName name) →
    names.foldl keep kept = names.reverse ++ kept
  | [], _, _ => rfl
  | name :: names, kept, h => by
    obtain ⟨hname, hnames⟩ := List.forall_mem_cons.mp h
    rw [List.foldl_cons, keep_name hname, foldl_keep_names hnames, List.reverse_cons,
      List.append_assoc, List.singleton_append]

/-! ### A clean path is left as it is -/

/-- The slash at the root starts no segment of its own. -/
theorem segments_root (path : List Char) : segments ('/' :: path) = segments path := by
  rw [segments, Text.split_sep]
  rfl

/-- Nor does a slash at the end. -/
theorem segments_concat (path : List Char) : segments (path ++ ['/']) = segments path := by
  rw [segments, segments, Text.split_eq_splitOn, Text.split_eq_splitOn,
    List.splitOn_append_cons_self, List.foldl_append]
  rfl

theorem segments_intercalate (h : ∀ name ∈ names, IsName name) :
    segments (['/'].intercalate names) = names := by
  by_cases hnil : names = []
  · rw [hnil]
    rfl
  · rw [segments, Text.split_eq_splitOn,
      List.splitOn_intercalate '/' (fun name hname => (h name hname).slash) hnil,
      foldl_keep_names h, List.append_nil, List.reverse_reverse]

/-- **Of a path of names all are left.** -/
theorem segments_write (slash : Bool) (h : ∀ name ∈ names, IsName name) :
    segments (write names slash) = names := by
  rw [write, List.cons_append, segments_root]
  split
  · rw [segments_concat, segments_intercalate h]
  · rw [List.append_nil, segments_intercalate h]

/-- A path of names ends with a slash only if one is put there. -/
theorem getLast?_intercalate (h : ∀ name ∈ names, IsName name) :
    (['/'].intercalate names).getLast? ≠ some '/' := by
  intro hlast
  obtain ⟨front, hfront⟩ := List.getLast?_eq_some_iff.mp hlast
  have hne : names ≠ [] := by
    rintro rfl
    cases hlast
  -- the slash at the end would make an empty segment
  have hsplit := List.splitOn_intercalate '/' (fun name hname => (h name hname).slash) hne
  rw [hfront, List.splitOn_append_cons_self, List.splitOn_nil] at hsplit
  have hempty : [] ∈ names := by
    rw [← hsplit]
    exact List.mem_append_right _ List.mem_cons_self
  exact (h [] hempty).ne_nil rfl

theorem getLast?_write (slash : Bool) (hne : names ≠ []) (h : ∀ name ∈ names, IsName name) :
    decide ((write names slash).getLast? = some '/') = slash := by
  have hjoined : ['/'].intercalate names ≠ [] := by
    intro hnil
    have hsegments := segments_intercalate h
    rw [hnil] at hsegments
    exact hne hsegments.symm
  cases slash with
  | true =>
    rw [write, if_pos ⟨rfl, hne⟩, List.getLast?_concat]
    exact decide_eq_true rfl
  | false =>
    have hlast := getLast?_intercalate h
    rw [write, if_neg (by simp), List.append_nil, List.getLast?_cons_of_ne_nil hjoined]
    exact decide_eq_false hlast

/-- **A clean path is left as it is.** -/
theorem clean_write (slash : Bool) (h : ∀ name ∈ names, IsName name) :
    clean (write names slash) = write names slash := by
  rw [clean, segments_write slash h]
  by_cases hne : names = []
  · simp [write, hne]
  · rw [getLast?_write slash hne h]

theorem clean_root (path : List Char) : ∃ cs, clean path = '/' :: cs := ⟨_, rfl⟩

theorem clean_isClean (path : List Char) : IsClean (clean path) :=
  ⟨segments path, _, segments_isName path, rfl⟩

/-- **The clean paths are those that cleaning leaves as they are.** -/
theorem clean_eq_self_iff {path : List Char} : clean path = path ↔ IsClean path := by
  constructor
  · intro hsame
    exact hsame ▸ clean_isClean path
  · rintro ⟨names, slash, hnames, rfl⟩
    exact clean_write slash hnames

/-- Cleaning again changes nothing. -/
theorem clean_clean (path : List Char) : clean (clean path) = clean path :=
  clean_eq_self_iff.mpr (clean_isClean path)

end Path
end PaymentGateway
