/-
# Trimming

What trimming by a class of characters leaves is bare, it neither starts nor ends with one of
them (`bare_trimBy`), and what it takes off is made of them (`exists_trimBy`). The two say
what the trimmed text is: a bare text comes back from any characters of the class around it
(`trimBy_append`).

Two trims may follow each other: white space, then slashes. Nothing is left of a text that is
slashes with white space around them (`OnlySlashes`), and of no other
(`onlySlashes_iff`).

Key definitions: `Text.Bare`, `Text.OnlySlashes`.
Key theorems: `Text.bare_trimBy`, `Text.exists_trimBy`, `Text.trimBy_append`,
`Text.trimBy_eq_nil_iff`, `Text.trim_append`, `Text.onlySlashes_iff`.
-/
import Mathlib.Data.List.DropRight
import PaymentGateway.Text.Blank

namespace PaymentGateway
namespace Text

variable {p : Char → Bool} {cs before after : List Char}

/-- `cs` neither starts nor ends with a character of the class `p`. -/
structure Bare (p : Char → Bool) (cs : List Char) : Prop where
  first : ∀ c, cs.head? = some c → p c = false
  last : ∀ c, cs.getLast? = some c → p c = false

/-! ### Classes of characters -/

theorem ne_of_class {c x : Char} (hc : p c = true) (hx : p x = false) : c ≠ x := by
  rintro rfl
  rw [hc] at hx
  cases hx

theorem notMem_of_class (h : ∀ c ∈ cs, p c = true) {x : Char} (hx : p x = false) : x ∉ cs :=
  fun hmem => ne_of_class (h x hmem) hx rfl

/-- Whether two classes have a character of ASCII in common can be looked up. -/
theorem disjoint_ascii {q : Char → Bool}
    (h : ∀ n < 128, p (Char.ofNat n) = true → q (Char.ofNat n) = false) {c : Char}
    (hascii : c.toNat < 128) (hc : p c = true) : q c = false := by
  have hcode := h c.toNat hascii
  rw [Char.ofNat_toNat] at hcode
  exact hcode hc

theorem bare_of_none (h : ∀ c ∈ cs, p c = false) : Bare p cs where
  first c hc := h c (List.mem_of_head? hc)
  last c hc := h c (List.mem_of_getLast? hc)

/-! ### The class at one end -/

theorem head?_dropWhile {c : Char} (h : (cs.dropWhile p).head? = some c) : p c = false := by
  have hfirst := List.head?_dropWhile_not p cs
  rw [h] at hfirst
  exact hfirst

theorem dropWhile_of_head? (h : ∀ c, cs.head? = some c → p c = false) : cs.dropWhile p = cs := by
  cases cs with
  | nil => rfl
  | cons c cs => exact List.dropWhile_cons_of_neg (Bool.eq_false_iff.mp (h c rfl))

/-- Characters of the class come off the front of a text that goes on with another one. -/
theorem span_append (hbefore : ∀ c ∈ before, p c = true)
    (hcs : ∀ c, cs.head? = some c → p c = false) :
    (before ++ cs).takeWhile p = before ∧ (before ++ cs).dropWhile p = cs := by
  have hdrop : (before ++ cs).dropWhile p = cs := by
    rw [List.dropWhile_append_of_pos hbefore, dropWhile_of_head? hcs]
  have hsplit : (before ++ cs).takeWhile p ++ cs = before ++ cs := by
    have happend := List.takeWhile_append_dropWhile (p := p) (l := before ++ cs)
    rwa [hdrop] at happend
  exact ⟨List.append_cancel_right hsplit, hdrop⟩

theorem trimEndBy_eq (p : Char → Bool) (cs : List Char) : trimEndBy p cs = cs.rdropWhile p := rfl

theorem trimEndBy_eq_nil_iff : trimEndBy p cs = [] ↔ ∀ c ∈ cs, p c = true := by
  rw [trimEndBy_eq, List.rdropWhile_eq_nil_iff]

theorem getLast?_trimEndBy {c : Char} (h : (trimEndBy p cs).getLast? = some c) : p c = false := by
  rw [trimEndBy, List.getLast?_reverse] at h
  exact head?_dropWhile h

/-- What is taken off the end is of the class. -/
theorem exists_trimEndBy (p : Char → Bool) (cs : List Char) :
    ∃ after, (∀ c ∈ after, p c = true) ∧ cs = trimEndBy p cs ++ after :=
  ⟨cs.rtakeWhile p, fun _ => List.mem_rtakeWhile_imp, List.rdropWhile_append_rtakeWhile.symm⟩

theorem trimEndBy_append (hlast : ∀ c, cs.getLast? = some c → p c = false)
    (hafter : ∀ c ∈ after, p c = true) : trimEndBy p (cs ++ after) = cs := by
  have hclass : ∀ c ∈ after.reverse, p c = true := fun c hc => hafter c (List.mem_reverse.mp hc)
  rw [trimEndBy, List.reverse_append, List.dropWhile_append_of_pos hclass, dropWhile_of_head?,
    List.reverse_reverse]
  intro c hc
  rw [List.head?_reverse] at hc
  exact hlast c hc

/-! ### The class at both ends -/

/-- **What trimming leaves is bare.** -/
theorem bare_trimBy (p : Char → Bool) (cs : List Char) : Bare p (trimBy p cs) where
  first c hc := by
    obtain ⟨after, -, hsplit⟩ := exists_trimEndBy p (cs.dropWhile p)
    have hfirst : (cs.dropWhile p).head? = some c := by
      rw [hsplit, List.head?_append]
      exact Option.or_eq_some_iff.mpr (.inl hc)
    exact head?_dropWhile hfirst
  last _ hc := getLast?_trimEndBy hc

/-- **What trimming takes off is of the class.** -/
theorem exists_trimBy (p : Char → Bool) (cs : List Char) : ∃ before after,
    (∀ c ∈ before, p c = true) ∧ (∀ c ∈ after, p c = true) ∧
      cs = before ++ trimBy p cs ++ after := by
  obtain ⟨after, hafter, hsplit⟩ := exists_trimEndBy p (cs.dropWhile p)
  refine ⟨cs.takeWhile p, after, List.all_eq_true.mp List.all_takeWhile, hafter, ?_⟩
  rw [trimBy, List.append_assoc, ← hsplit, List.takeWhile_append_dropWhile]

/-- **A bare text comes back** from what is around it. -/
theorem trimBy_append (hbefore : ∀ c ∈ before, p c = true) (hcs : Bare p cs)
    (hafter : ∀ c ∈ after, p c = true) : trimBy p (before ++ cs ++ after) = cs := by
  rw [trimBy, List.append_assoc, List.dropWhile_append_of_pos hbefore]
  cases cs with
  | nil =>
    rw [List.nil_append, trimEndBy_eq_nil_iff]
    exact fun c hc => hafter c ((List.dropWhile_sublist p).mem hc)
  | cons c cs =>
    rw [List.cons_append, List.dropWhile_cons_of_neg (Bool.eq_false_iff.mp (hcs.first c rfl)),
      ← List.cons_append, trimEndBy_append hcs.last hafter]

theorem trimBy_eq_nil_iff : trimBy p cs = [] ↔ ∀ c ∈ cs, p c = true := by
  constructor
  · intro hnil
    obtain ⟨before, after, hbefore, hafter, hsplit⟩ := exists_trimBy p cs
    rw [hsplit, hnil, List.append_nil]
    exact List.forall_mem_append.mpr ⟨hbefore, hafter⟩
  · intro hall
    have hempty : Bare p [] := ⟨by simp, by simp⟩
    have hnone : ∀ c ∈ ([] : List Char), p c = true := by simp
    have htrim := trimBy_append hall hempty hnone
    rwa [List.append_nil, List.append_nil] at htrim

theorem trim_eq_empty_iff {s : String} : trim s = "" ↔ ∀ c ∈ s.toList, isBlank c = true := by
  rw [trim, String.ofList_eq_empty_iff, trimBy_eq_nil_iff]

theorem trim_ofList (cs : List Char) :
    trim (String.ofList cs) = String.ofList (trimBy isBlank cs) := by
  rw [trim, String.toList_ofList]

/-- A text bare of white space comes back from the white space around it. -/
theorem trim_append (hbefore : ∀ c ∈ before, isBlank c = true) (hcs : Bare isBlank cs)
    (hafter : ∀ c ∈ after, isBlank c = true) :
    trim (String.ofList (before ++ cs ++ after)) = String.ofList cs := by
  rw [trim_ofList, trimBy_append hbefore hcs hafter]

/-! ### Slashes between white space -/

/-- A text that is slashes only, with white space around them. -/
def OnlySlashes (s : String) : Prop :=
  ∃ (before after : List Char) (n : Nat), (∀ c ∈ before, isBlank c = true) ∧
    (∀ c ∈ after, isBlank c = true) ∧ s.toList = before ++ List.replicate n '/' ++ after

theorem bare_replicate {c : Char} (hc : p c = false) (n : Nat) :
    Bare p (List.replicate n c) := by
  apply bare_of_none
  intro x hx
  rw [List.eq_of_mem_replicate hx, hc]

/-- **Only slashes are left between the white space.** -/
theorem onlySlashes_iff {s : String} :
    OnlySlashes s ↔ ∀ c ∈ trimBy isBlank s.toList, (c == '/') = true := by
  constructor
  · rintro ⟨before, after, n, hbefore, hafter, hs⟩ c hc
    rw [hs, trimBy_append hbefore (bare_replicate (by decide) n) hafter] at hc
    rw [List.eq_of_mem_replicate hc]
    rfl
  · intro hall
    obtain ⟨before, after, hbefore, hafter, hsplit⟩ := exists_trimBy isBlank s.toList
    refine ⟨before, after, (trimBy isBlank s.toList).length, hbefore, hafter, ?_⟩
    have hslashes := List.eq_replicate_of_mem fun c hc => beq_iff_eq.mp (hall c hc)
    rw [← hslashes]
    exact hsplit

/-- Nothing is left of a text that is only slashes, trimmed at both ends. -/
theorem trimSlashes_eq_empty_iff {s : String} : trimSlashes (trim s) = "" ↔ OnlySlashes s := by
  rw [trimSlashes, String.ofList_eq_empty_iff, trimBy_eq_nil_iff, onlySlashes_iff, trim,
    String.toList_ofList]

/-- Nothing is left of a text that is only slashes, trimmed at its end. -/
theorem trimEndSlashes_eq_empty_iff {s : String} :
    trimEndSlashes (trim s) = "" ↔ OnlySlashes s := by
  rw [trimEndSlashes, String.ofList_eq_empty_iff, trimEndBy_eq_nil_iff, onlySlashes_iff, trim,
    String.toList_ofList]

theorem bare_trimSlashes (s : String) : Bare (· == '/') (trimSlashes s).toList := by
  rw [trimSlashes, String.toList_ofList]
  exact bare_trimBy _ _

theorem getLast?_trimEndSlashes (s : String) : (trimEndSlashes s).toList.getLast? ≠ some '/' := by
  intro hlast
  rw [trimEndSlashes, String.toList_ofList] at hlast
  have hno := getLast?_trimEndBy hlast
  cases hno

end Text
end PaymentGateway
