/-
# The first value of a text

A text starts with a value if it starts with the tokens of the value, blanks between them, and the
value can be seen to end there (`Starts`): a container ends with its bracket, a string or word when
anything follows it, a number when something follows that cannot continue it.

The reader finds the value exactly then (`closed_iff`), and it fails exactly when no continuation
would make the text start with a value (`failed_iff`). Both are proved from what a state still asks
of the text: `Owes s k v` says that with `k` to come the first value is `v`. It is defined state by
state from the grammar, without running the machine: the rest of the token that is being read, then
what the containers on the stack need to be closed (`Closes`). One character takes what is owed
afterwards to what was owed before (`owes_step`), so what is owed at the end of a text the start
owes of the text. And every state that has not failed can be paid (`exists_owes`).

Key definitions: `Json.Delimited`, `Json.Starts`, `Json.Reader.Closes`, `Json.Reader.Owes`.
Key theorems: `Json.Reader.owes_step`, `Json.Reader.exists_owes`, `Json.closed_iff`,
`Json.failed_iff`.
-/
import PaymentGateway.Proofs.Json.RoundTrip

namespace PaymentGateway
namespace Json

/-- Whether a value that a text starts with ends there, given the rest of the text: at the top a
container does, a string or a word if something follows, a number if what follows cannot continue
it. -/
def Delimited : Json → List Char → Prop
  | .array _, _ => True
  | .object _, _ => True
  | .number n, rest => ∃ c more, rest = c :: more ∧ ∀ q, isNumeral (n ++ c :: q) = false
  | _, rest => rest ≠ []

/-- **A text starts with a value.** -/
def Starts (v : Json) (text : List Char) : Prop :=
  ∃ front back, v.fits maxDepth = true ∧ Spaced v.tokens front ∧ text = front ++ back ∧
    Delimited v back

namespace Reader

/-! ### Tokens to come -/

/-- The text is these tokens, blanks before each of them, and then `back`. -/
def Tokens (ts : List (List Char)) (text back : List Char) : Prop :=
  ∃ front, Spaced ts front ∧ text = front ++ back

namespace Tokens

variable {ts us : List (List Char)} {token text back : List Char}

theorem nil (text : List Char) : Tokens [] text text := ⟨[], .nil, rfl⟩

theorem cons (token : List Char) (h : Tokens ts text back) :
    Tokens (token :: ts) (token ++ text) back := by
  obtain ⟨front, hfront, rfl⟩ := h
  refine ⟨token ++ front, @Spaced.token [] _ _ _ rfl hfront, ?_⟩
  rw [List.append_assoc]

/-- A blank may stand before a token. -/
theorem space {c : Char} (hc : isSpace c = true) (h : Tokens (token :: ts) text back) :
    Tokens (token :: ts) (c :: text) back := by
  obtain ⟨front, hfront, rfl⟩ := h
  cases hfront with
  | @token blanks _ rest _ blank tail =>
    refine ⟨(c :: blanks) ++ (token ++ rest), .token ?_ tail, rfl⟩
    rw [isBlank, List.all_cons, hc]
    exact blank

theorem append : ∀ {ts : List (List Char)} {text mid : List Char}, Tokens ts text mid →
    Tokens us mid back → Tokens (ts ++ us) text back
  | [], text, mid, ⟨_, .nil, htext⟩, hus => by
    rw [htext]
    exact hus
  | t :: ts, text, mid, ⟨_, @Spaced.token blanks _ rest _ blank tail, htext⟩, hus => by
    obtain ⟨front, hfront, hrest⟩ := append ⟨rest, tail, rfl⟩ hus
    refine ⟨blanks ++ (t ++ front), .token blank hfront, ?_⟩
    rw [htext, List.append_assoc, List.append_assoc, hrest, List.append_assoc, List.append_assoc]

end Tokens

/-! ### What is owed -/

/-- The levels that are left inside so many containers. -/
def room (depth : Nat) : Nat := maxDepth - depth

/-- With `k` to come after the value `w`, the containers of the stack are closed and make `v`. -/
def Closes : Json → List Frame → Nat → List Char → Json → Prop
  | w, [], _, _, v => w = v
  | w, .item done :: stack, depth, k, v => ∃ vs back, itemsFit (room depth) vs = true ∧
      Tokens (itemTokens vs ++ [[']']]) k back ∧
      Closes (.array (done.reverse ++ w :: vs)) stack (depth - 1) back v
  | w, .member done key :: stack, depth, k, v => ∃ ms back, membersFit (room depth) ms = true ∧
      Tokens (memberTokens ms ++ [['}']]) k back ∧
      Closes (.object (done.reverse ++ (key, w) :: ms)) stack (depth - 1) back v

section Owed

variable (stack : List Frame) (depth : Nat) (k : List Char) (v : Json)

/-- What is owed before a value. -/
def OwesValue : Prop :=
  ∃ w back, w.fits (room depth) = true ∧ Tokens w.tokens k back ∧
    (stack = [] → Delimited w back) ∧ Closes w stack depth back v

/-- What is owed after the items `done`. -/
def OwesItems (done : List Json) : Prop :=
  ∃ vs back, itemsFit (room depth) vs = true ∧ Tokens (itemTokens vs ++ [[']']]) k back ∧
    Closes (.array (done.reverse ++ vs)) stack (depth - 1) back v

/-- What is owed after the members `done`. -/
def OwesMembers (done : List (List Char × Json)) : Prop :=
  ∃ ms back, membersFit (room depth) ms = true ∧ Tokens (memberTokens ms ++ [['}']]) k back ∧
    Closes (.object (done.reverse ++ ms)) stack (depth - 1) back v

/-- What is owed after the members `done` and the key of one more. -/
def OwesColon (done : List (List Char × Json)) (key : List Char) : Prop :=
  ∃ w ms back, w.fits (room depth) = true ∧ membersFit (room depth) ms = true ∧
    Tokens ([':'] :: (w.tokens ++ (memberTokens ms ++ [['}']]))) k back ∧
    Closes (.object (done.reverse ++ (key, w) :: ms)) stack (depth - 1) back v

/-- What is owed inside a document: the rest of the token that is being read, then what follows
it. -/
def OwesMode : Mode → Prop
  | .value => OwesValue stack depth k v
  | .openArray => ∃ vs back, itemsFit (room depth) vs = true ∧
      Tokens (Json.array vs).tokens.tail k back ∧ Closes (.array vs) stack (depth - 1) back v
  | .afterItem done => OwesItems stack depth k v done
  | .openObject => ∃ ms back, membersFit (room depth) ms = true ∧
      Tokens (Json.object ms).tokens.tail k back ∧ Closes (.object ms) stack (depth - 1) back v
  | .keyStart done => ∃ key rest, isSpelled key = true ∧ Tokens [writeString key] k rest ∧
      OwesColon stack depth rest v done key
  | .keyText done part spelled => ∃ q rest, part.after? q = some .plain ∧ k = q ++ '"' :: rest ∧
      OwesColon stack depth rest v done (spelled.reverse ++ q)
  | .colon done key => OwesColon stack depth k v done key
  | .afterMember done => OwesMembers stack depth k v done
  | .text part spelled => ∃ q back, part.after? q = some .plain ∧ k = q ++ '"' :: back ∧
      (stack = [] → back ≠ []) ∧ Closes (.string (spelled.reverse ++ q)) stack depth back v
  | .number part spelled => ∃ q last back, q.foldlM NumberPart.next? part = some last ∧
      last.mayEnd = true ∧ k = q ++ back ∧
      (stack = [] → ∃ c more, back = c :: more ∧ last.next? c = none) ∧
      Closes (.number (spelled.reverse ++ q)) stack depth back v
  | .word rest meaning => ∃ back, k = rest ++ back ∧ (stack = [] → back ≠ []) ∧
      Closes meaning stack depth back v

end Owed

/-- **With `k` to come, the first value is `v`.** -/
def Owes : State → List Char → Json → Prop
  | .reading mode stack depth, k, v => OwesMode stack depth k v mode
  | .scalar w, k, v => k ≠ [] ∧ w = v
  | .closed w _, _, v => w = v
  | .failed, _, _ => False

variable {stack : List Frame} {depth : Nat} {k : List Char} {v w : Json} {c : Char}

/-! ### One character -/

theorem closes_item_iff {done : List Json} : Closes w (.item done :: stack) depth k v ↔
    OwesItems stack depth k v (w :: done) := by
  simp only [Closes, OwesItems, List.reverse_cons, List.append_assoc, List.singleton_append]

theorem closes_member_iff {done : List (List Char × Json)} {key : List Char} :
    Closes w (.member done key :: stack) depth k v ↔
      OwesMembers stack depth k v ((key, w) :: done) := by
  simp only [Closes, OwesMembers, List.reverse_cons, List.append_assoc, List.singleton_append]

/-- What is owed when a value has been handed on. -/
theorem owes_deliver {top : State} (h : Owes (deliver w top stack depth) k v) :
    (stack = [] → Owes top k v) ∧ (stack ≠ [] → Closes w stack depth k v) := by
  cases stack with
  | nil => exact ⟨fun _ => h, fun hne => absurd rfl hne⟩
  | cons frame stack =>
    refine ⟨fun hnil => absurd hnil (List.cons_ne_nil frame stack), fun _ => ?_⟩
    cases frame with
    | item done => exact closes_item_iff.mpr h
    | member done key => exact closes_member_iff.mpr h

theorem owes_close (h : Owes (close w stack depth) k v) : Closes w stack (depth - 1) k v := by
  obtain ⟨htop, hinside⟩ := owes_deliver h
  by_cases hstack : stack = []
  · subst hstack
    exact htop rfl
  · exact hinside hstack

theorem owes_scalar (h : Owes (deliver w (.scalar w) stack depth) k v) :
    (stack = [] → k ≠ []) ∧ Closes w stack depth k v := by
  obtain ⟨htop, hinside⟩ := owes_deliver h
  by_cases hstack : stack = []
  · subst hstack
    obtain ⟨hne, hw⟩ := htop rfl
    exact ⟨fun _ => hne, hw⟩
  · exact ⟨fun hnil => absurd hnil hstack, hinside hstack⟩

theorem room_succ (h : depth < maxDepth) : room depth = room (depth + 1) + 1 := by
  unfold room
  omega

theorem owes_openArray (h : Owes (descend .openArray stack depth) k v) :
    OwesValue stack depth ('[' :: k) v := by
  unfold descend at h
  split at h
  · next hdepth =>
    obtain ⟨vs, back, hfits, htokens, hcloses⟩ := h
    have hall : (Json.array vs).tokens = ['['] :: (Json.array vs).tokens.tail := by
      cases vs <;> rfl
    refine ⟨.array vs, back, ?_, ?_, fun _ => trivial, hcloses⟩
    · rw [room_succ hdepth]
      exact hfits
    · rw [hall]
      exact htokens.cons ['[']
  · exact h.elim

theorem owes_openObject (h : Owes (descend .openObject stack depth) k v) :
    OwesValue stack depth ('{' :: k) v := by
  unfold descend at h
  split at h
  · next hdepth =>
    obtain ⟨ms, back, hfits, htokens, hcloses⟩ := h
    have hall : (Json.object ms).tokens = ['{'] :: (Json.object ms).tokens.tail := by
      cases ms <;> rfl
    refine ⟨.object ms, back, ?_, ?_, fun _ => trivial, hcloses⟩
    · rw [room_succ hdepth]
      exact hfits
    · rw [hall]
      exact htokens.cons ['{']
  · exact h.elim

theorem owes_string (h : Owes (.reading (.text .plain []) stack depth) k v) :
    OwesValue stack depth ('"' :: k) v := by
  obtain ⟨q, back, hspelled, rfl, hend, hcloses⟩ := h
  refine ⟨.string q, back, ?_, ?_, hend, hcloses⟩
  · rw [fits, isSpelled, hspelled]
    rfl
  · have htoken := (Tokens.nil back).cons (writeString q)
    rw [writeString, List.cons_append, List.append_assoc] at htoken
    exact htoken

/-- A numeral goes on from the part that its front leads to. -/
theorem isNumeral_append {first : Char} {cs : List Char} {p last : NumberPart}
    (hp : NumberPart.start? first = some p) (hcs : cs.foldlM NumberPart.next? p = some last)
    (rest : List Char) :
    isNumeral (first :: (cs ++ rest)) =
      (rest.foldlM NumberPart.next? last).any (·.mayEnd) := by
  rw [isNumeral, hp, Option.bind_some, List.foldlM_append, hcs]
  rfl

theorem owes_numeral {p : NumberPart} (hp : NumberPart.start? c = some p)
    (h : Owes (.reading (.number p [c]) stack depth) k v) : OwesValue stack depth (c :: k) v := by
  obtain ⟨q, last, back, hq, hlast, rfl, hend, hcloses⟩ := h
  refine ⟨.number (c :: q), back, ?_, (Tokens.nil back).cons (c :: q), ?_, hcloses⟩
  · have hnumeral := isNumeral_append hp hq []
    rw [List.append_nil] at hnumeral
    rw [fits, hnumeral]
    exact hlast
  · intro hstack
    obtain ⟨d, more, rfl, hnext⟩ := hend hstack
    refine ⟨d, more, rfl, fun q' => ?_⟩
    rw [List.cons_append, isNumeral_append hp hq, List.foldlM_cons, hnext]
    rfl

/-- A word whose first character is `c`. -/
theorem owes_word {rest : List Char} (hfits : w.fits (room depth) = true)
    (htokens : w.tokens = [c :: rest]) (hdelimited : ∀ back, back ≠ [] → Delimited w back)
    (h : Owes (.reading (.word rest w) stack depth) k v) : OwesValue stack depth (c :: k) v := by
  obtain ⟨back, rfl, hend, hcloses⟩ := h
  refine ⟨w, back, hfits, ?_, fun hstack => hdelimited back (hend hstack), hcloses⟩
  rw [htokens]
  exact (Tokens.nil back).cons (c :: rest)

theorem owes_startValue (h : Owes (startValue c stack depth) k v) :
    OwesValue stack depth (c :: k) v := by
  unfold startValue at h
  split at h
  · exact owes_openArray h
  · exact owes_openObject h
  · exact owes_string h
  · exact owes_numeral rfl h
  · exact owes_numeral rfl h
  · exact owes_word (w := .bool true) rfl rfl (fun _ hne => hne) h
  · exact owes_word (w := .bool false) rfl rfl (fun _ hne => hne) h
  · exact owes_word (w := .null) rfl rfl (fun _ hne => hne) h
  · next hminus hzero _ _ _ =>
    split at h
    · next hdigit =>
      apply owes_numeral _ h
      rw [NumberPart.start?, if_neg hminus, NumberPart.next?, if_neg hzero, if_pos hdigit]
    · exact h.elim

theorem OwesValue.space (hc : isSpace c = true) (h : OwesValue stack depth k v) :
    OwesValue stack depth (c :: k) v := by
  obtain ⟨w, back, hfits, htokens, hend, hcloses⟩ := h
  obtain ⟨first, cs, ts, hfirst, -⟩ := tokens_first hfits
  rw [hfirst] at htokens
  refine ⟨w, back, hfits, ?_, hend, hcloses⟩
  rw [hfirst]
  exact htokens.space hc

/-- What is owed before the next item, a comma before it. -/
theorem OwesItems.comma {done : List Json} (h : OwesValue (.item done :: stack) depth k v) :
    OwesItems stack depth (',' :: k) v done := by
  obtain ⟨w, rest, hw, hwtokens, -, vs, back, hvs, hvstokens, hcloses⟩ := h
  refine ⟨w :: vs, back, ?_, ?_, hcloses⟩
  · rw [itemsFit, hw, hvs]
    rfl
  · have htokens := (hwtokens.append hvstokens).cons [',']
    rw [← List.append_assoc] at htokens
    exact htokens

theorem owes_stepAfterItem {done : List Json} (h : Owes (stepAfterItem c done stack depth) k v) :
    OwesItems stack depth (c :: k) v done := by
  unfold stepAfterItem at h
  split at h
  · next hspace =>
    obtain ⟨vs, back, hfits, htokens, hcloses⟩ := h
    refine ⟨vs, back, hfits, ?_, hcloses⟩
    cases vs with
    | nil => exact htokens.space hspace
    | cons w vs => exact htokens.space hspace
  · split at h
    · next hcomma =>
      rw [hcomma]
      exact OwesItems.comma h
    · split at h
      · next hclose =>
        rw [hclose]
        refine ⟨[], k, rfl, (Tokens.nil k).cons [']'], ?_⟩
        rw [List.append_nil]
        exact owes_close h
      · exact h.elim

theorem OwesMembers.comma {done : List (List Char × Json)}
    (h : OwesMode stack depth k v (.keyStart done)) :
    OwesMembers stack depth (',' :: k) v done := by
  obtain ⟨key, rest, hkey, hkeytoken, w, ms, back, hw, hms, htokens, hcloses⟩ := h
  refine ⟨(key, w) :: ms, back, ?_, ?_, hcloses⟩
  · rw [membersFit, hkey, hw, hms]
    rfl
  · have hall := (hkeytoken.append htokens).cons [',']
    rw [List.singleton_append, ← List.append_assoc] at hall
    exact hall

theorem owes_stepAfterMember {done : List (List Char × Json)}
    (h : Owes (stepAfterMember c done stack depth) k v) :
    OwesMembers stack depth (c :: k) v done := by
  unfold stepAfterMember at h
  split at h
  · next hspace =>
    obtain ⟨ms, back, hfits, htokens, hcloses⟩ := h
    refine ⟨ms, back, hfits, ?_, hcloses⟩
    cases ms with
    | nil => exact htokens.space hspace
    | cons w ms => exact htokens.space hspace
  · split at h
    · next hcomma =>
      rw [hcomma]
      exact OwesMembers.comma h
    · split at h
      · next hclose =>
        rw [hclose]
        refine ⟨[], k, rfl, (Tokens.nil k).cons ['}'], ?_⟩
        rw [List.append_nil]
        exact owes_close h
      · exact h.elim

/-- A key starts. -/
theorem owes_startKey {done : List (List Char × Json)}
    (h : Owes (startKey c done stack depth) k v) :
    OwesMode stack depth (c :: k) v (.keyStart done) := by
  unfold startKey at h
  split at h
  · next hquote =>
    obtain ⟨q, rest, hspelled, rfl, hcolon⟩ := h
    refine ⟨q, rest, ?_, ?_, hcolon⟩
    · rw [isSpelled, hspelled]
      rfl
    · have htoken := (Tokens.nil rest).cons (writeString q)
      rw [writeString, List.cons_append, List.append_assoc] at htoken
      rw [hquote]
      exact htoken
  · exact h.elim

/-- A number is handed on by the character after it. -/
theorem owes_endNumber (h : Owes (endNumber c w stack depth) k v) :
    Closes w stack depth (c :: k) v := by
  rcases stack with _ | ⟨frame, stack⟩
  · exact h
  · cases frame with
    | item done => exact closes_item_iff.mpr (owes_stepAfterItem h)
    | member done key => exact closes_member_iff.mpr (owes_stepAfterMember h)

/-- The rest of a string grows by the character that is read. -/
theorem after?_cons {part next : TextPart} (hquote : ¬(part = .plain ∧ c = '"'))
    (hnext : part.next? c = some next) (q : List Char) : part.after? (c :: q) = next.after? q := by
  rw [TextPart.after?, if_neg hquote, hnext, Option.bind_some]

/-- After the bracket that opens an array a blank may stand. -/
theorem owes_openArray_space (hc : isSpace c = true) (h : OwesMode stack depth k v .openArray) :
    OwesMode stack depth (c :: k) v .openArray := by
  obtain ⟨vs, back, hfits, htokens, hcloses⟩ := h
  refine ⟨vs, back, hfits, ?_, hcloses⟩
  cases vs with
  | nil => exact htokens.space hc
  | cons w vs =>
    rw [itemsFit, Bool.and_eq_true] at hfits
    obtain ⟨first, cs, ts, hfirst, -⟩ := tokens_first hfits.1
    rw [tokens, List.tail_cons, hfirst] at htokens ⊢
    exact htokens.space hc

/-- The first item of an array. -/
theorem owes_openArray_item (h : OwesValue (.item [] :: stack) depth k v) :
    OwesMode stack depth k v .openArray := by
  obtain ⟨w, rest, hw, hwtokens, -, vs, back, hvs, hvstokens, hcloses⟩ := h
  refine ⟨w :: vs, back, ?_, hwtokens.append hvstokens, hcloses⟩
  rw [itemsFit, hw, hvs]
  rfl

theorem owes_stepOpenArray (h : Owes (stepMode c .openArray stack depth) k v) :
    OwesMode stack depth (c :: k) v .openArray := by
  simp only [stepMode] at h
  split at h
  · next hspace => exact owes_openArray_space hspace h
  · split at h
    · next hclose =>
      rw [hclose]
      exact ⟨[], k, rfl, (Tokens.nil k).cons [']'], owes_close h⟩
    · exact owes_openArray_item (owes_startValue h)

/-- After the brace that opens an object a blank may stand. -/
theorem owes_openObject_space (hc : isSpace c = true) (h : OwesMode stack depth k v .openObject) :
    OwesMode stack depth (c :: k) v .openObject := by
  obtain ⟨ms, back, hfits, htokens, hcloses⟩ := h
  refine ⟨ms, back, hfits, ?_, hcloses⟩
  rcases ms with _ | ⟨⟨key, w⟩, ms⟩
  · exact htokens.space hc
  · exact htokens.space hc

/-- The first member of an object. -/
theorem owes_openObject_member (h : OwesMode stack depth k v (.keyStart [])) :
    OwesMode stack depth k v .openObject := by
  obtain ⟨key, rest, hkey, hkeytoken, w, ms, back, hw, hms, htokens, hcloses⟩ := h
  refine ⟨(key, w) :: ms, back, ?_, hkeytoken.append htokens, hcloses⟩
  rw [membersFit, hkey, hw, hms]
  rfl

theorem owes_stepOpenObject (h : Owes (stepMode c .openObject stack depth) k v) :
    OwesMode stack depth (c :: k) v .openObject := by
  simp only [stepMode] at h
  split at h
  · next hspace => exact owes_openObject_space hspace h
  · split at h
    · next hclose =>
      rw [hclose]
      exact ⟨[], k, rfl, (Tokens.nil k).cons ['}'], owes_close h⟩
    · exact owes_openObject_member (owes_startKey h)

theorem owes_stepKeyStart {done : List (List Char × Json)}
    (h : Owes (stepMode c (.keyStart done) stack depth) k v) :
    OwesMode stack depth (c :: k) v (.keyStart done) := by
  simp only [stepMode] at h
  split at h
  · next hspace =>
    obtain ⟨key, rest, hkey, hkeytoken, hcolon⟩ := h
    exact ⟨key, rest, hkey, hkeytoken.space hspace, hcolon⟩
  · exact owes_startKey h

theorem owes_stepKeyText {done : List (List Char × Json)} {part : TextPart} {spelled : List Char}
    (h : Owes (stepMode c (.keyText done part spelled) stack depth) k v) :
    OwesMode stack depth (c :: k) v (.keyText done part spelled) := by
  simp only [stepMode] at h
  split at h
  · next hquote =>
    obtain ⟨rfl, rfl⟩ := hquote
    refine ⟨[], k, rfl, rfl, ?_⟩
    rw [List.append_nil]
    exact h
  · next hquote =>
    split at h
    · next next hnext =>
      obtain ⟨q, rest, hq, rfl, hcolon⟩ := h
      refine ⟨c :: q, rest, (after?_cons hquote hnext q).trans hq, rfl, ?_⟩
      rw [List.reverse_cons, List.append_assoc] at hcolon
      exact hcolon
    · exact h.elim

theorem owes_stepColon {done : List (List Char × Json)} {key : List Char}
    (h : Owes (stepMode c (.colon done key) stack depth) k v) :
    OwesColon stack depth (c :: k) v done key := by
  simp only [stepMode] at h
  split at h
  · next hspace =>
    obtain ⟨w, ms, back, hw, hms, htokens, hcloses⟩ := h
    exact ⟨w, ms, back, hw, hms, htokens.space hspace, hcloses⟩
  · split at h
    · next hcolon =>
      obtain ⟨w, rest, hw, hwtokens, -, ms, back, hms, hmstokens, hcloses⟩ := h
      rw [hcolon]
      exact ⟨w, ms, back, hw, hms, (hwtokens.append hmstokens).cons [':'], hcloses⟩
    · exact h.elim

theorem owes_stepText {part : TextPart} {spelled : List Char}
    (h : Owes (stepMode c (.text part spelled) stack depth) k v) :
    OwesMode stack depth (c :: k) v (.text part spelled) := by
  simp only [stepMode] at h
  split at h
  · next hquote =>
    obtain ⟨rfl, rfl⟩ := hquote
    obtain ⟨hend, hcloses⟩ := owes_scalar h
    refine ⟨[], k, rfl, rfl, hend, ?_⟩
    rw [List.append_nil]
    exact hcloses
  · next hquote =>
    split at h
    · next next hnext =>
      obtain ⟨q, back, hq, rfl, hend, hcloses⟩ := h
      refine ⟨c :: q, back, (after?_cons hquote hnext q).trans hq, rfl, hend, ?_⟩
      rw [List.reverse_cons, List.append_assoc] at hcloses
      exact hcloses
    · exact h.elim

theorem owes_stepNumber {part : NumberPart} {spelled : List Char}
    (h : Owes (stepMode c (.number part spelled) stack depth) k v) :
    OwesMode stack depth (c :: k) v (.number part spelled) := by
  simp only [stepMode] at h
  split at h
  · next next hnext =>
    obtain ⟨q, last, back, hq, hlast, rfl, hend, hcloses⟩ := h
    refine ⟨c :: q, last, back, ?_, hlast, rfl, hend, ?_⟩
    · rw [List.foldlM_cons, hnext]
      exact hq
    · rw [List.reverse_cons, List.append_assoc] at hcloses
      exact hcloses
  · next hnext =>
    split at h
    · next hend =>
      refine ⟨[], part, c :: k, rfl, hend, rfl, fun _ => ⟨c, k, rfl, hnext⟩, ?_⟩
      rw [List.append_nil]
      exact owes_endNumber h
    · exact h.elim

theorem owes_stepWord {x : Char} {rest : List Char} {meaning : Json}
    (h : Owes (stepMode c (.word (x :: rest) meaning) stack depth) k v) :
    OwesMode stack depth (c :: k) v (.word (x :: rest) meaning) := by
  simp only [stepMode] at h
  split at h
  · next hx =>
    rw [hx]
    split at h
    · next hrest =>
      obtain ⟨hend, hcloses⟩ := owes_scalar h
      refine ⟨k, ?_, hend, hcloses⟩
      rw [List.isEmpty_iff.mp hrest]
      rfl
    · obtain ⟨back, rfl, hend, hcloses⟩ := h
      exact ⟨back, rfl, hend, hcloses⟩
  · exact h.elim

theorem owes_stepMode : ∀ (mode : Mode), Owes (stepMode c mode stack depth) k v →
    OwesMode stack depth (c :: k) v mode
  | .value, h => by
    simp only [stepMode] at h
    split at h
    · next hspace => exact OwesValue.space hspace h
    · exact owes_startValue h
  | .openArray, h => owes_stepOpenArray h
  | .afterItem _, h => owes_stepAfterItem h
  | .openObject, h => owes_stepOpenObject h
  | .keyStart _, h => owes_stepKeyStart h
  | .keyText _ _ _, h => owes_stepKeyText h
  | .colon _ _, h => owes_stepColon h
  | .afterMember _, h => owes_stepAfterMember h
  | .text _ _, h => owes_stepText h
  | .number _ _, h => owes_stepNumber h
  | .word [] _, h => h.elim
  | .word (_ :: _) _, h => owes_stepWord h

/-- **One character takes what is owed afterwards to what was owed before.** -/
theorem owes_step {s : State} (h : Owes (step s c) k v) : Owes s (c :: k) v := by
  cases s with
  | reading mode stack depth => exact owes_stepMode mode h
  | scalar w => exact ⟨List.cons_ne_nil c k, h⟩
  | closed w junk => exact h
  | failed => exact h.elim

/-- What is owed after a text was owed before it. -/
theorem owes_foldl : ∀ (cs : List Char) {s : State}, Owes (cs.foldl step s) k v →
    Owes s (cs ++ k) v
  | [], _, h => h
  | _ :: cs, _, h => owes_step (owes_foldl cs h)

theorem owes_start (h : Owes start k v) : Starts v k := by
  obtain ⟨w, back, hfits, ⟨front, hfront, rfl⟩, hend, rfl⟩ := h
  exact ⟨front, back, hfits, hfront, rfl, hend rfl⟩

/-- What is owed after a text makes it start with a value. -/
theorem starts_of_owes {cs : List Char} (h : Owes (run cs) k v) : Starts v (cs ++ k) :=
  owes_start (owes_foldl cs h)

/-! ### Every debt can be paid -/

/-- The containers around a value can be closed, after a blank. -/
theorem exists_closes : ∀ (stack : List Frame) (w : Json) (depth : Nat),
    ∃ k v, Closes w stack depth (' ' :: k) v
  | [], w, _ => ⟨[], w, rfl⟩
  | .item done :: stack, w, depth => by
    obtain ⟨k, v, hcloses⟩ := exists_closes stack (.array (done.reverse ++ [w])) (depth - 1)
    have htokens := ((Tokens.nil (' ' :: k)).cons [']']).space (c := ' ') rfl
    exact ⟨']' :: ' ' :: k, v, [], ' ' :: k, rfl, htokens, hcloses⟩
  | .member done key :: stack, w, depth => by
    obtain ⟨k, v, hcloses⟩ := exists_closes stack (.object (done.reverse ++ [(key, w)])) (depth - 1)
    have htokens := ((Tokens.nil (' ' :: k)).cons ['}']).space (c := ' ') rfl
    exact ⟨'}' :: ' ' :: k, v, [], ' ' :: k, rfl, htokens, hcloses⟩

/-- A string can be ended. -/
theorem exists_after? : ∀ part : TextPart, ∃ q, part.after? q = some .plain
  | .plain => ⟨[], rfl⟩
  | .escape => ⟨['n'], rfl⟩
  | .hex more => by
    induction more with
    | zero => exact ⟨['0'], rfl⟩
    | succ more ih =>
      obtain ⟨q, hq⟩ := ih
      exact ⟨'0' :: q, hq⟩

/-- A number can be ended. -/
theorem exists_mayEnd (part : NumberPart) :
    ∃ (q : List Char) (last : NumberPart),
      q.foldlM NumberPart.next? part = some last ∧ last.mayEnd = true := by
  cases part with
  | zero | whole | fraction | exponent => exact ⟨[], _, rfl, rfl⟩
  | sign | point | mark | markSign => exact ⟨['0'], _, rfl, rfl⟩

theorem exists_owesColon (done : List (List Char × Json)) (key : List Char) (stack : List Frame)
    (depth : Nat) : ∃ k v, OwesColon stack depth k v done key := by
  obtain ⟨k, v, hcloses⟩ :=
    exists_closes stack (.object (done.reverse ++ [(key, .null)])) (depth - 1)
  have htokens := (((Tokens.nil (' ' :: k)).cons ['}']).cons Json.null.write).cons [':']
  exact ⟨_, v, .null, [], ' ' :: k, rfl, rfl, htokens, hcloses⟩

/-- **A state that has not failed can be paid what it owes.** -/
theorem exists_owes (s : State) (h : s ≠ .failed) : ∃ k v, Owes s k v := by
  cases s with
  | failed => exact absurd rfl h
  | closed w junk => exact ⟨[], w, rfl⟩
  | scalar w => exact ⟨[' '], w, List.cons_ne_nil _ _, rfl⟩
  | reading mode stack depth =>
    cases mode with
    | value =>
      obtain ⟨k, v, hcloses⟩ := exists_closes stack .null depth
      exact ⟨_, v, .null, ' ' :: k, rfl, (Tokens.nil _).cons Json.null.write,
        fun _ => List.cons_ne_nil _ _, hcloses⟩
    | openArray =>
      obtain ⟨k, v, hcloses⟩ := exists_closes stack (.array []) (depth - 1)
      exact ⟨_, v, [], ' ' :: k, rfl, (Tokens.nil _).cons [']'], hcloses⟩
    | afterItem done =>
      obtain ⟨k, v, hcloses⟩ := exists_closes stack (.array (done.reverse ++ [])) (depth - 1)
      exact ⟨_, v, [], ' ' :: k, rfl, (Tokens.nil _).cons [']'], hcloses⟩
    | openObject =>
      obtain ⟨k, v, hcloses⟩ := exists_closes stack (.object []) (depth - 1)
      exact ⟨_, v, [], ' ' :: k, rfl, (Tokens.nil _).cons ['}'], hcloses⟩
    | keyStart done =>
      obtain ⟨k, v, hcolon⟩ := exists_owesColon done [] stack depth
      exact ⟨_, v, [], k, rfl, (Tokens.nil k).cons (writeString []), hcolon⟩
    | keyText done part spelled =>
      obtain ⟨q, hq⟩ := exists_after? part
      obtain ⟨k, v, hcolon⟩ := exists_owesColon done (spelled.reverse ++ q) stack depth
      exact ⟨_, v, q, k, hq, rfl, hcolon⟩
    | colon done key => exact exists_owesColon done key stack depth
    | afterMember done =>
      obtain ⟨k, v, hcloses⟩ := exists_closes stack (.object (done.reverse ++ [])) (depth - 1)
      exact ⟨_, v, [], ' ' :: k, rfl, (Tokens.nil _).cons ['}'], hcloses⟩
    | text part spelled =>
      obtain ⟨q, hq⟩ := exists_after? part
      obtain ⟨k, v, hcloses⟩ := exists_closes stack (.string (spelled.reverse ++ q)) depth
      exact ⟨_, v, q, ' ' :: k, hq, rfl, fun _ => List.cons_ne_nil _ _, hcloses⟩
    | number part spelled =>
      obtain ⟨q, last, hq, hlast⟩ := exists_mayEnd part
      obtain ⟨k, v, hcloses⟩ := exists_closes stack (.number (spelled.reverse ++ q)) depth
      exact ⟨_, v, q, last, ' ' :: k, hq, hlast, rfl, fun _ => ⟨' ', k, rfl, next?_space last rfl⟩,
        hcloses⟩
    | word rest meaning =>
      obtain ⟨k, v, hcloses⟩ := exists_closes stack meaning depth
      exact ⟨_, v, ' ' :: k, rfl, fun _ => List.cons_ne_nil _ _, hcloses⟩

/-! ### A value that is there is found -/

/-- A value that ends with a bracket. -/
def isContainer : Json → Bool
  | .array _ => true
  | .object _ => true
  | _ => false

/-- No container is taken for a word: what waits to be seen to end is none. -/
def State.Sound : State → Prop
  | .reading (.word _ meaning) _ _ => isContainer meaning = false
  | .scalar w => isContainer w = false
  | _ => True

theorem sound_deliver {top : State} (h : top.Sound) : (deliver w top stack depth).Sound := by
  rcases stack with _ | ⟨frame, stack⟩
  · exact h
  · cases frame <;> trivial

theorem sound_startValue : (startValue c stack depth).Sound := by
  unfold startValue descend
  repeat' split
  all_goals trivial

theorem sound_startKey {done : List (List Char × Json)} :
    (startKey c done stack depth).Sound := by
  unfold startKey
  split <;> trivial

theorem sound_stepAfterItem {done : List Json} : (stepAfterItem c done stack depth).Sound := by
  unfold stepAfterItem
  repeat' split
  all_goals first | trivial | exact sound_deliver trivial

theorem sound_stepAfterMember {done : List (List Char × Json)} :
    (stepAfterMember c done stack depth).Sound := by
  unfold stepAfterMember
  repeat' split
  all_goals first | trivial | exact sound_deliver trivial

theorem sound_endNumber : (endNumber c w stack depth).Sound := by
  unfold endNumber
  split
  · trivial
  · exact sound_stepAfterItem
  · exact sound_stepAfterMember

theorem sound_step {s : State} (h : s.Sound) : (step s c).Sound := by
  rcases s with ⟨mode, stack, depth⟩ | w | ⟨w, junk⟩ | _
  case scalar | closed | failed => trivial
  cases mode with
  | afterItem done => exact sound_stepAfterItem
  | afterMember done => exact sound_stepAfterMember
  | word rest meaning =>
    cases rest with
    | nil => trivial
    | cons x rest =>
      simp only [step, stepMode]
      repeat' split
      · exact sound_deliver h
      · exact h
      · trivial
  | value | openArray | openObject | keyStart | keyText | colon | text | number =>
    simp only [step, stepMode]
    repeat' split
    all_goals first
      | trivial | exact sound_startValue | exact sound_startKey | exact sound_endNumber
      | exact sound_deliver trivial | exact sound_deliver rfl

theorem sound_run (cs : List Char) : (run cs).Sound := by
  have hfoldl : ∀ (cs : List Char) (s : State), s.Sound → (cs.foldl step s).Sound := by
    intro cs
    induction cs with
    | nil => exact fun _ h => h
    | cons c cs ih => exact fun s h => ih (step s c) (sound_step h)
  exact hfoldl cs start trivial

/-- Once a value is found it stays so. -/
theorem foldl_closed : ∀ (cs : List Char) (v : Json) (junk : Bool),
    ∃ junk', cs.foldl step (.closed v junk) = .closed v junk'
  | [], _, junk => ⟨junk, rfl⟩
  | c :: cs, v, junk => foldl_closed cs v (junk || !isSpace c)

theorem foldl_failed : ∀ cs : List Char, cs.foldl step .failed = .failed
  | [] => rfl
  | _ :: cs => foldl_failed cs

end Reader

open Reader

/-- A numeral at the top ends where it cannot go on. -/
theorem run_numeral {n front : List Char} (h : isNumeral n = true) (hfront : Spaced [n] front)
    {c : Char} (hc : ∀ q, isNumeral (n ++ c :: q) = false) :
    run (front ++ [c]) = .closed (.number n) (!isSpace c) := by
  cases n with
  | nil => simp [isNumeral] at h
  | cons first cs =>
    simp only [isNumeral, Option.any_eq_true, Option.bind_eq_some_iff] at h
    obtain ⟨last, ⟨p, hp, hlast⟩, hend⟩ := h
    have hnext : last.next? c = none := by
      cases hnext : last.next? c with
      | none => rfl
      | some next =>
        obtain ⟨q, final, hq, hfinal⟩ := exists_mayEnd next
        have hcontinued : isNumeral (first :: (cs ++ c :: q)) = true := by
          rw [isNumeral_append hp hlast, List.foldlM_cons, hnext]
          show (q.foldlM NumberPart.next? next).any (·.mayEnd) = true
          rw [hq]
          exact hfinal
        rw [← List.cons_append, hc q] at hcontinued
        cases hcontinued
    have hread : run front = .reading (.number last (first :: cs).reverse) [] 0 := by
      rw [run, start, foldl_last rfl hfront, List.foldl_cons, step_value (start?_isFirst hp),
        startValue_number hp, foldl_number cs p last [first] hlast, List.reverse_cons]
    rw [run, List.foldl_append, ← run, hread, List.foldl_cons, List.foldl_nil, step, stepMode,
      hnext]
    simp only [hend, ↓reduceIte, List.reverse_reverse]
    rfl

/-- The states in which a text may end. -/
theorem finish?_cases {s : State} {v : Json} (h : s.finish? = some (v, false)) :
    s = .closed v false ∨ s = .scalar v ∨ ∃ n, v = .number n := by
  unfold State.finish? at h
  split at h
  · cases h
    exact .inl rfl
  · cases h
    exact .inr (.inl rfl)
  · split at h
    · cases h
      exact .inr (.inr ⟨_, rfl⟩)
    · cases h
  · cases h

/-- **A text that starts with a value is read as that value.** -/
theorem closed_of_starts {v : Json} {cs : List Char} (h : Starts v cs) :
    ∃ junk, run cs = .closed v junk := by
  obtain ⟨front, back, hfits, hfront, rfl, hback⟩ := h
  have hread : (run front).finish? = some (v, false) :=
    settles_spaced v maxDepth 0 [] front hfits (by omega) hfront [] rfl
  have happend (more : List Char) : run (front ++ more) = more.foldl step (run front) := by
    rw [run, List.foldl_append, ← run]
  obtain hclosed | hscalar | ⟨n, rfl⟩ := finish?_cases hread
  · rw [happend, hclosed]
    exact foldl_closed back v false
  · have hsound := sound_run front
    rw [hscalar] at hsound
    have hne : back ≠ [] := by
      cases v with
      | null | bool | string => exact hback
      | number n =>
        obtain ⟨c, more, rfl, -⟩ := hback
        exact List.cons_ne_nil c more
      | array | object => cases hsound
    obtain ⟨c, more, rfl⟩ := List.exists_cons_of_ne_nil hne
    rw [happend, hscalar, List.foldl_cons]
    exact foldl_closed more v _
  · obtain ⟨c, more, rfl, hc⟩ := hback
    rw [fits] at hfits
    rw [← List.singleton_append, ← List.append_assoc, run, List.foldl_append, ← run,
      run_numeral hfits hfront hc]
    exact foldl_closed more _ _

/-- **The reader has found a value exactly if the text starts with it.** -/
theorem closed_iff {v : Json} {cs : List Char} :
    (∃ junk, run cs = .closed v junk) ↔ Starts v cs := by
  constructor
  · rintro ⟨junk, hclosed⟩
    have howes : Owes (run cs) [] v := by
      rw [hclosed]
      exact rfl
    rw [← List.append_nil cs]
    exact starts_of_owes howes
  · exact closed_of_starts

/-- **The reader has failed exactly if nothing can follow** that makes the text start with a
value. -/
theorem failed_iff {cs : List Char} : run cs = .failed ↔ ∀ more v, ¬Starts v (cs ++ more) := by
  constructor
  · intro hfailed more v hstarts
    obtain ⟨junk, hclosed⟩ := closed_of_starts hstarts
    rw [run, List.foldl_append, ← run, hfailed, foldl_failed] at hclosed
    cases hclosed
  · intro hnone
    apply Classical.byContradiction
    intro hne
    obtain ⟨k, v, howes⟩ := exists_owes (run cs) hne
    exact hnone k v (starts_of_owes howes)

end Json
end PaymentGateway
