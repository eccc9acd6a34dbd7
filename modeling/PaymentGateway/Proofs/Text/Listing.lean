/-
# Lists in writing

A list of words is written with commas between them. White space around a word and parts
that are blank say nothing: a text may have them anywhere and still write the same list
(`Writes`). Reading leaves them out. What is read of a text is the list that its parts write,
and no other can be (`nonBlankParts_iff`): its words are not empty, hold no comma and are bare
of white space (`IsWord`), so they can be told from what is around them. However words are
written, they are read back (`Writes.nonBlankParts_join`), which makes what is read a normal
form of what was written (`nonBlankParts_normal`).

Key definitions: `Text.IsWord`, `Text.Writes`, `Text.wordsOf`.
Key theorems: `Text.nonBlankParts_iff`, `Text.Writes.nonBlankParts_join`,
`Text.nonBlankParts_normal`.
-/
import PaymentGateway.Proofs.Text.Splitting

namespace PaymentGateway
namespace Text

variable {part before after : List Char} {parts : List (List Char)} {word : String}
  {words : List String}

/-- A word of a list: not empty, without a comma, and bare of white space. -/
structure IsWord (s : String) : Prop where
  ne_empty : s ≠ ""
  comma_notMem : ',' ∉ s.toList
  bare : Bare isBlank s.toList

/-- Parts that write a list of words: one part for each word, in order, with white space
around it, and blank parts anywhere. -/
inductive Writes : List (List Char) → List String → Prop where
  | nil : Writes [] []
  | blank {part : List Char} {parts : List (List Char)} {words : List String}
      (hpart : ∀ c ∈ part, isBlank c = true) (rest : Writes parts words) :
      Writes (part :: parts) words
  | word {before after : List Char} {word : String} {parts : List (List Char)}
      {words : List String} (hbefore : ∀ c ∈ before, isBlank c = true)
      (hafter : ∀ c ∈ after, isBlank c = true) (rest : Writes parts words) :
      Writes ((before ++ word.toList ++ after) :: parts) (word :: words)

/-! ### What is left of the parts -/

/-- The parts that are not blank, without the white space around them. -/
def wordsOf (parts : List (List Char)) : List String :=
  (parts.filter fun part => part.any fun c => !isBlank c).map
    fun part => trim (String.ofList part)

theorem any_not_blank_iff :
    (part.any fun c => !isBlank c) = true ↔ ¬ ∀ c ∈ part, isBlank c = true := by
  simp

theorem wordsOf_blank (hpart : ∀ c ∈ part, isBlank c = true) :
    wordsOf (part :: parts) = wordsOf parts := by
  have hnone : (part.any fun c => !isBlank c) = false := by simpa using hpart
  simp only [wordsOf, List.filter_cons, hnone, Bool.false_eq_true, ↓reduceIte]

theorem wordsOf_nonBlank (hpart : ¬ ∀ c ∈ part, isBlank c = true) :
    wordsOf (part :: parts) = trim (String.ofList part) :: wordsOf parts := by
  have hsome := any_not_blank_iff.mpr hpart
  simp only [wordsOf, List.filter_cons, hsome, ↓reduceIte, List.map_cons]

/-- Parts may be trimmed first and left out when nothing remains of them. -/
theorem nonBlankParts_eq (s : String) : nonBlankParts s = wordsOf (s.toList.splitOn ',') := by
  rw [nonBlankParts, split_eq_splitOn]
  simp only [← trim_ofList]
  induction s.toList.splitOn ',' with
  | nil => rfl
  | cons part parts ih =>
    by_cases hpart : ∀ c ∈ part, isBlank c = true
    · have hempty : trim (String.ofList part) = "" := by
        rwa [trim_eq_empty_iff, String.toList_ofList]
      rw [wordsOf_blank hpart, ← ih]
      simp [hempty]
    · have hsome : trim (String.ofList part) ≠ "" := by
        rwa [ne_eq, trim_eq_empty_iff, String.toList_ofList]
      rw [wordsOf_nonBlank hpart, ← ih]
      simp [hsome]

/-- **Parts write the words that are left of them.** -/
theorem writes_wordsOf : ∀ parts : List (List Char), Writes parts (wordsOf parts)
  | [] => .nil
  | part :: parts => by
    by_cases hpart : ∀ c ∈ part, isBlank c = true
    · rw [wordsOf_blank hpart]
      exact .blank hpart (writes_wordsOf parts)
    · obtain ⟨before, after, hbefore, hafter, hsplit⟩ := exists_trimBy isBlank part
      have hword : Writes ((before ++ (trim (String.ofList part)).toList ++ after) :: parts)
          (trim (String.ofList part) :: wordsOf parts) :=
        .word hbefore hafter (writes_wordsOf parts)
      rw [wordsOf_nonBlank hpart]
      rwa [trim_ofList, String.toList_ofList, ← hsplit, ← trim_ofList] at hword

/-- What is left of parts without a comma are words. -/
theorem isWord_wordsOf (hparts : ∀ part ∈ parts, ',' ∉ part) :
    ∀ word ∈ wordsOf parts, IsWord word := by
  intro word hword
  obtain ⟨part, hpart, rfl⟩ := List.mem_map.mp hword
  obtain ⟨hmem, hsome⟩ := List.mem_filter.mp hpart
  obtain ⟨before, after, -, -, hsplit⟩ := exists_trimBy isBlank part
  constructor
  · rw [ne_eq, trim_eq_empty_iff, String.toList_ofList]
    exact any_not_blank_iff.mp hsome
  · rw [trim_ofList, String.toList_ofList]
    intro hcomma
    apply hparts part hmem
    rw [hsplit]
    exact List.mem_append_left after (List.mem_append_right before hcomma)
  · rw [trim_ofList, String.toList_ofList]
    exact bare_trimBy isBlank part

/-! ### Writing and reading -/

theorem comma_notMem_of_blank (hpart : ∀ c ∈ part, isBlank c = true) : ',' ∉ part :=
  notMem_of_class hpart (by decide)

namespace Writes

/-- **The words that parts write are what is left of them.** -/
theorem wordsOf_eq (h : Writes parts words) (hwords : ∀ word ∈ words, IsWord word) :
    wordsOf parts = words := by
  induction h with
  | nil => rfl
  | blank hpart _ ih => rw [wordsOf_blank hpart, ih hwords]
  | @word before after word _ _ hbefore hafter _ ih =>
    obtain ⟨hword, hrest⟩ := List.forall_mem_cons.mp hwords
    have htrim : trim (String.ofList (before ++ word.toList ++ after)) = word := by
      rw [trim_append hbefore hword.bare hafter, String.ofList_toList]
    have hsome : ¬ ∀ c ∈ before ++ word.toList ++ after, isBlank c = true := by
      rw [← String.toList_ofList (l := before ++ word.toList ++ after), ← trim_eq_empty_iff, htrim]
      exact hword.ne_empty
    rw [wordsOf_nonBlank hsome, htrim, ih hrest]

/-- Parts that write words hold no comma. -/
theorem comma_notMem (h : Writes parts words) (hwords : ∀ word ∈ words, IsWord word) :
    ∀ part ∈ parts, ',' ∉ part := by
  induction h with
  | nil => simp
  | blank hpart _ ih => exact List.forall_mem_cons.mpr ⟨comma_notMem_of_blank hpart, ih hwords⟩
  | word hbefore hafter _ ih =>
    obtain ⟨hword, hrest⟩ := List.forall_mem_cons.mp hwords
    refine List.forall_mem_cons.mpr ⟨?_, ih hrest⟩
    apply List.not_mem_append
    · exact List.not_mem_append (comma_notMem_of_blank hbefore) hword.comma_notMem
    · exact comma_notMem_of_blank hafter

end Writes

/-- Words write themselves. -/
theorem writes_self : ∀ words : List String, Writes (words.map String.toList) words
  | [] => .nil
  | word :: words => by
    have hnone : ∀ c ∈ ([] : List Char), isBlank c = true := by simp
    have hword : Writes (([] ++ word.toList ++ []) :: words.map String.toList) (word :: words) :=
      .word hnone hnone (writes_self words)
    rwa [List.nil_append, List.append_nil] at hword

/-- **What is read of a text**: the words that its parts write, and no others. -/
theorem nonBlankParts_iff {s : String} : nonBlankParts s = words ↔
    (∀ word ∈ words, IsWord word) ∧ Writes (s.toList.splitOn ',') words := by
  rw [nonBlankParts_eq]
  constructor
  · rintro rfl
    exact ⟨isWord_wordsOf fun _ => notMem_of_mem_splitOn, writes_wordsOf _⟩
  · rintro ⟨hwords, hwrites⟩
    exact hwrites.wordsOf_eq hwords

/-- **Words are read back**, however they are written. -/
theorem Writes.nonBlankParts_join (h : Writes parts words)
    (hwords : ∀ word ∈ words, IsWord word) :
    nonBlankParts (String.ofList ([','].intercalate parts)) = words := by
  rw [nonBlankParts_iff, String.toList_ofList]
  refine ⟨hwords, ?_⟩
  by_cases hparts : parts = []
  · -- joining no parts gives the empty text, which splits into one empty part
    subst hparts
    exact .blank (by simp) h
  · rwa [List.splitOn_intercalate ',' (h.comma_notMem hwords) hparts]

/-- **Reading a list gives its normal form.** The words are the parts of the text between its
commas that are not blank, in order, each without the white space around it. None is empty,
holds a comma or has white space at its ends. Joined with commas they are read back, also when
there is white space around them and blank parts among them. -/
theorem nonBlankParts_normal (raw : String) :
    nonBlankParts raw =
      ((raw.toList.splitOn ',').filter fun part => part.any fun c => !isBlank c).map
        (fun part => trim (String.ofList part)) ∧
    (∀ word ∈ nonBlankParts raw,
      word ≠ "" ∧ ',' ∉ word.toList ∧ Bare isBlank word.toList) ∧
    nonBlankParts (",".intercalate (nonBlankParts raw)) = nonBlankParts raw ∧
    ∀ parts, Writes parts (nonBlankParts raw) →
      nonBlankParts (String.ofList ([','].intercalate parts)) = nonBlankParts raw := by
  obtain ⟨hwords, -⟩ := nonBlankParts_iff.mp (rfl : nonBlankParts raw = nonBlankParts raw)
  refine ⟨nonBlankParts_eq raw, fun word hword => ?_, ?_, fun parts hwrites => ?_⟩
  · have h := hwords word hword
    exact ⟨h.ne_empty, h.comma_notMem, h.bare⟩
  · have hjoin := (writes_self (nonBlankParts raw)).nonBlankParts_join hwords
    rwa [show [','] = ",".toList from rfl, ← String.toList_intercalate,
      String.ofList_toList] at hjoin
  · exact hwrites.nonBlankParts_join hwords

/-- Two equal words with a space inside, between white space of three widths and blank parts;
written anew with other white space, they are read back. -/
theorem nonBlankParts_normal_spaced :
    let raw := ",\u3000b 1\t,,b 1 ,\u0085,\u00A0c"
    let parts := [['\n'], ['b', ' ', '1', ' '], [], ['b', ' ', '1'], ['\u2003', 'c']]
    nonBlankParts raw = ["b 1", "b 1", "c"] ∧ ',' ∉ "b 1".toList ∧
      nonBlankParts "b 1,b 1,c" = ["b 1", "b 1", "c"] ∧
      nonBlankParts (String.ofList ([','].intercalate parts)) = ["b 1", "b 1", "c"] := by
  intro raw parts
  have hraw : nonBlankParts raw = ["b 1", "b 1", "c"] := by decide +kernel
  obtain ⟨-, hwords, hjoin, hwrites⟩ := nonBlankParts_normal raw
  rw [hraw] at hwords hjoin hwrites
  have hparts : Writes parts ["b 1", "b 1", "c"] := by
    have hnone : ∀ c ∈ ([] : List Char), isBlank c = true := by simp
    have hspace : ∀ c ∈ [' '], isBlank c = true := List.all_eq_true.mp (by decide)
    have hbreak : ∀ c ∈ ['\n'], isBlank c = true := List.all_eq_true.mp (by decide)
    have hwide : ∀ c ∈ ['\u2003'], isBlank c = true := List.all_eq_true.mp (by decide)
    have hlast := @Writes.word _ _ "c" _ _ hwide hnone .nil
    have hsecond := @Writes.word _ _ "b 1" _ _ hnone hnone hlast
    have hfirst := @Writes.word _ _ "b 1" _ _ hnone hspace (.blank hnone hsecond)
    exact .blank hbreak hfirst
  exact ⟨hraw, (hwords "b 1" (by simp)).2.1, hjoin, hwrites parts hparts⟩

end Text
end PaymentGateway
