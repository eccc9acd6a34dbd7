/-
# Splitting undoes joining

A part that does not hold the separator comes off the front whole: `split` gives it
as its first part (`split_append`) and `cut` as what stands before the separator
(`cut_append`). A text without the separator is its only part. The parts are those of the
list library's splitting (`split_eq_splitOn`) and do not hold the separator
(`notMem_of_mem_splitOn`); none is left of a text whose parts are all blank
(`nonBlankParts_eq_nil_iff`).

Key theorems: `Text.split_append`, `Text.split_of_notMem`, `Text.split_eq_splitOn`,
`Text.notMem_of_mem_splitOn`, `Text.nonBlankParts_eq_nil_iff`, `Text.cut_append`,
`Text.cut_append_left`, `Text.cut_of_notMem`.
-/
import PaymentGateway.Proofs.Text.Trimming
import PaymentGateway.Text.Blank

namespace PaymentGateway
namespace Text

variable {sep : Char}

theorem split_sep (rest : List Char) : split sep (sep :: rest) = [] :: split sep rest := if_pos rfl

/-- A character that is not the separator belongs to the first part. -/
theorem split_cons {c : Char} (hc : c ≠ sep) {rest part : List Char} {parts : List (List Char)}
    (h : split sep rest = part :: parts) : split sep (c :: rest) = (c :: part) :: parts := by
  rw [split] at h
  rw [split, List.foldr_cons, if_neg hc, h]

/-- **A part comes off the front** up to the separator. -/
theorem split_append : ∀ {part : List Char}, sep ∉ part → ∀ rest : List Char,
    split sep (part ++ sep :: rest) = part :: split sep rest
  | [], _, rest => split_sep rest
  | c :: part, h, rest => by
    obtain ⟨hc, hpart⟩ := List.ne_and_not_mem_of_not_mem_cons h
    exact split_cons hc.symm (split_append hpart rest)

/-- A text without the separator is one part. -/
theorem split_of_notMem : ∀ {cs : List Char}, sep ∉ cs → split sep cs = [cs]
  | [], _ => rfl
  | c :: cs, h => by
    obtain ⟨hc, hcs⟩ := List.ne_and_not_mem_of_not_mem_cons h
    exact split_cons hc.symm (split_of_notMem hcs)

/-- **The parts are those of `List.splitOn`.** -/
theorem split_eq_splitOn : ∀ cs : List Char, split sep cs = cs.splitOn sep
  | [] => rfl
  | c :: cs => by
    rw [List.splitOn_cons_eq_if_modifyHead]
    by_cases hc : c = sep
    · rw [hc, split_sep, if_pos (beq_self_eq_true sep), split_eq_splitOn cs]
    · obtain ⟨part, parts, hparts⟩ := List.exists_cons_of_ne_nil (List.splitOn_ne_nil sep cs)
      have hsplit : split sep cs = part :: parts := (split_eq_splitOn cs).trans hparts
      rw [split_cons hc hsplit, if_neg (beq_iff_eq.not.mpr hc), hparts]
      rfl

/-- No part holds the separator. -/
theorem notMem_of_mem_splitOn : ∀ {cs part : List Char}, part ∈ cs.splitOn sep → sep ∉ part
  | [], part, h => by
    rw [List.splitOn_nil, List.mem_singleton] at h
    simp [h]
  | c :: cs, part, h => by
    rw [List.splitOn_cons_eq_if_modifyHead] at h
    split at h
    · rcases List.mem_cons.mp h with rfl | hpart
      · exact List.not_mem_nil
      · exact notMem_of_mem_splitOn hpart
    · next hc =>
      obtain ⟨first, parts, hparts⟩ := List.exists_cons_of_ne_nil (List.splitOn_ne_nil sep cs)
      have hrest : ∀ part ∈ first :: parts, sep ∉ part :=
        fun part hpart => notMem_of_mem_splitOn (hparts ▸ hpart)
      rw [hparts, List.modifyHead_cons, List.mem_cons] at h
      rcases h with rfl | hpart
      · have hsep : sep ≠ c := fun heq => hc (beq_iff_eq.mpr heq.symm)
        exact List.not_mem_cons_of_ne_of_not_mem hsep (hrest first List.mem_cons_self)
      · exact hrest part (List.mem_cons_of_mem first hpart)

/-- No part is left of a text exactly if all its parts are blank. -/
theorem nonBlankParts_eq_nil_iff {s : String} : nonBlankParts s = [] ↔
    ∀ part ∈ s.toList.splitOn ',', ∀ c ∈ part, isBlank c = true := by
  rw [nonBlankParts, split_eq_splitOn, List.filter_eq_nil_iff, List.forall_mem_map]
  refine forall₂_congr fun part _ => ?_
  rw [← trimBy_eq_nil_iff, ← String.ofList_eq_empty_iff]
  simp

/-- The text is cut at its first separator. -/
theorem cut_append : ∀ {before : List Char}, sep ∉ before → ∀ after : List Char,
    cut sep (before ++ sep :: after) = (before, some after)
  | [], _, after => if_pos rfl
  | c :: before, h, after => by
    obtain ⟨hc, hbefore⟩ := List.ne_and_not_mem_of_not_mem_cons h
    rw [List.cons_append, cut, if_neg hc.symm, cut_append hbefore after]

/-- What stands in front of the text stays in front of its first separator. -/
theorem cut_append_left : ∀ {front : List Char}, sep ∉ front → ∀ rest : List Char,
    cut sep (front ++ rest) = (front ++ (cut sep rest).1, (cut sep rest).2)
  | [], _, _ => rfl
  | c :: front, h, rest => by
    obtain ⟨hc, hfront⟩ := List.ne_and_not_mem_of_not_mem_cons h
    rw [List.cons_append, cut, if_neg hc.symm, cut_append_left hfront rest]
    rfl

/-- A text without the separator is not cut. -/
theorem cut_of_notMem : ∀ {cs : List Char}, sep ∉ cs → cut sep cs = (cs, none)
  | [], _ => rfl
  | c :: cs, h => by
    obtain ⟨hc, hcs⟩ := List.ne_and_not_mem_of_not_mem_cons h
    rw [cut, if_neg hc.symm, cut_of_notMem hcs]

end Text
end PaymentGateway
