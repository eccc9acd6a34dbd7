/-
# Reading a document

Every text of a document is read as the document, whatever blanks stand between its
tokens: `finish?_text`. So reading undoes writing (`parse?_write`). The reader is a
machine, so the statement that is proved by induction on the document speaks of the
machine in the middle of a text, inside any stack of open containers: after the
characters of `v` it has read `v` (`HasRead`). It cannot say that `v` was handed
to the container around it, for a number is handed over by the character after
it; what it says is that a comma or a bracket then acts as if `v` had been, and that
it still does so after blanks (`Settles`).

Only documents that some text spells can be read back. `Json.fits` says which:
spelled strings between quotes, numerals of the grammar, no deeper than allowed.

Key definitions: `Json.fits`, `Json.Reader.HasRead`, `Json.Reader.Settles`.
Key theorems: `Json.Reader.settles_spaced`, `Json.finish?_text`, `Json.parse?_write`.
-/
import PaymentGateway.Proofs.Json.Layout
import PaymentGateway.Proofs.Json.Literal

namespace PaymentGateway
namespace Json

/-- The part that the first character of a numeral leads to. -/
def Reader.NumberPart.start? (c : Char) : Option NumberPart :=
  if c = '-' then some sign else sign.next? c

/-- Whether a numeral belongs to the grammar of numbers. -/
def isNumeral : List Char → Bool
  | [] => false
  | c :: cs =>
    ((Reader.NumberPart.start? c).bind fun p => cs.foldlM Reader.NumberPart.next? p).any (·.mayEnd)

mutual

/-- Whether the document is spelled as the grammar asks and its containers nest
to at most `room` levels. -/
def fits : Nat → Json → Bool
  | _, .null => true
  | _, .bool _ => true
  | _, .number n => isNumeral n
  | _, .string s => isSpelled s
  | 0, .array _ => false
  | room + 1, .array vs => itemsFit room vs
  | 0, .object _ => false
  | room + 1, .object ms => membersFit room ms

/-- The items of an array fit. -/
def itemsFit : Nat → List Json → Bool
  | _, [] => true
  | room, v :: vs => v.fits room && itemsFit room vs

/-- The members of an object fit, keys and values. -/
def membersFit : Nat → List (List Char × Json) → Bool
  | _, [] => true
  | room, (k, v) :: ms => isSpelled k && v.fits room && membersFit room ms

end

namespace Reader

/-- A character that ends an item or a member. -/
def isMark (c : Char) : Bool := c = ',' || c = ']' || c = '}'

/-- **The machine has read `v`** inside the containers of a stack. At the top the
text may end here; inside a container, a mark acts as if `v` had been handed to
it. -/
def HasRead (s : State) (v : Json) (depth : Nat) : List Frame → Prop
  | [] => s.finish? = some (v, false)
  | frame :: stack =>
    ∀ c, isMark c = true → step s c = step (deliver v .failed (frame :: stack) depth) c

variable {v : Json} {stack : List Frame} {depth : Nat}

/-- The machine has read `v`, also after blanks. -/
def Settles (s : State) (v : Json) (depth : Nat) (stack : List Frame) : Prop :=
  ∀ blanks, isBlank blanks = true → HasRead (blanks.foldl step s) v depth stack

/-! ### Blanks -/

/-- The modes between two tokens. -/
def Mode.isBetween : Mode → Bool
  | .keyText .. | .text .. | .number .. | .word .. => false
  | _ => true

theorem step_between {mode : Mode} (h : mode.isBetween = true) {c : Char}
    (hc : isSpace c = true) :
    step (.reading mode stack depth) c = .reading mode stack depth := by
  cases mode
  case keyText | text | number | word => cases h
  all_goals simp only [step, stepMode, stepAfterItem, stepAfterMember, hc, ↓reduceIte]

theorem step_closed {c : Char} (hc : isSpace c = true) :
    step (.closed v false) c = .closed v false := by
  simp only [step, hc, Bool.not_true, Bool.or_false]

/-- Blanks do not change a state that no blank changes. -/
theorem foldl_blanks {s : State} (h : ∀ c, isSpace c = true → step s c = s) :
    ∀ {blanks : List Char}, isBlank blanks = true → blanks.foldl step s = s
  | [], _ => rfl
  | c :: blanks, hb => by
    rw [isBlank, List.all_cons, Bool.and_eq_true] at hb
    rw [List.foldl_cons, h c hb.1]
    exact foldl_blanks h hb.2

/-- Between two tokens blanks are passed over. -/
theorem foldl_between {mode : Mode} (h : mode.isBetween = true) {blanks : List Char}
    (hb : isBlank blanks = true) (cs : List Char) :
    (blanks ++ cs).foldl step (.reading mode stack depth) =
      cs.foldl step (.reading mode stack depth) := by
  rw [List.foldl_append, foldl_blanks (fun c hc => step_between h hc) hb]

/-- Between two tokens the machine goes from token to token. -/
theorem foldl_token (mode : Mode) (stack : List Frame) (depth : Nat)
    (hmode : mode.isBetween = true) {token : List Char} {ts : List (List Char)} {cs : List Char}
    (h : Spaced (token :: ts) cs) : ∃ rest, Spaced ts rest ∧
      cs.foldl step (.reading mode stack depth) =
        rest.foldl step (token.foldl step (.reading mode stack depth)) := by
  obtain _ | ⟨blank, tail⟩ := h
  refine ⟨_, tail, ?_⟩
  rw [foldl_between hmode blank, List.foldl_append]

/-- Between two tokens the machine goes over a last token. -/
theorem foldl_last {mode : Mode} (hmode : mode.isBetween = true) {token cs : List Char}
    (h : Spaced [token] cs) : cs.foldl step (.reading mode stack depth) =
      token.foldl step (.reading mode stack depth) := by
  obtain ⟨rest, hrest, hfold⟩ := foldl_token mode stack depth hmode h
  cases hrest
  exact hfold

/-- A value that was handed on stays so. -/
theorem settles_closed : Settles (deliver v (.closed v false) stack depth) v depth stack := by
  intro blanks hb
  cases stack with
  | nil =>
    show (blanks.foldl step (.closed v false)).finish? = _
    rw [foldl_blanks (fun c hc => step_closed hc) hb]
    rfl
  | cons frame stack =>
    intro c _
    cases frame with
    | item done =>
      show step (blanks.foldl step (.reading (.afterItem (v :: done)) stack depth)) c = _
      rw [foldl_blanks (fun c hc => step_between rfl hc) hb]
      rfl
    | member done key =>
      show step (blanks.foldl step (.reading (.afterMember ((key, v) :: done)) stack depth)) c = _
      rw [foldl_blanks (fun c hc => step_between rfl hc) hb]
      rfl

/-- A value settles if it has been read and a blank hands it on. -/
theorem settles_of_blank {s : State} (hread : HasRead s v depth stack)
    (hblank : ∀ c, isSpace c = true → step s c = deliver v (.closed v false) stack depth) :
    Settles s v depth stack := by
  intro blanks hb
  cases blanks with
  | nil => exact hread
  | cons c blanks =>
    rw [isBlank, List.all_cons, Bool.and_eq_true] at hb
    rw [List.foldl_cons, hblank c hb.1]
    exact settles_closed blanks hb.2

theorem settles_scalar : Settles (deliver v (.scalar v) stack depth) v depth stack := by
  cases stack with
  | nil =>
    have hread : HasRead (.scalar v) v depth [] := rfl
    apply settles_of_blank hread
    intro c hc
    show State.closed v (!isSpace c) = _
    rw [hc]
    rfl
  | cons frame stack =>
    have hsame : deliver v (.scalar v) (frame :: stack) depth =
        deliver v (.closed v false) (frame :: stack) depth := by cases frame <;> rfl
    rw [hsame]
    exact settles_closed

theorem settles_close : Settles (close v stack (depth + 1)) v depth stack := settles_closed

/-! ### Strings and numbers -/

/-- In this mode the machine collects the characters of a string. Keys and string
values are collected in modes of their own. -/
def Collects (mode : TextPart → List Char → Mode) (stack : List Frame) (depth : Nat) : Prop :=
  ∀ (p q : TextPart) (spelled : List Char) (c : Char), ¬ (p = .plain ∧ c = '"') →
    p.next? c = some q →
    stepMode c (mode p spelled) stack depth = .reading (mode q (c :: spelled)) stack depth

theorem collects_text : Collects .text stack depth := by
  intro p q spelled c hquote hnext
  simp only [stepMode, hquote, ↓reduceIte, hnext]

theorem collects_keyText (done : List (List Char × Json)) :
    Collects (.keyText done) stack depth := by
  intro p q spelled c hquote hnext
  simp only [stepMode, hquote, ↓reduceIte, hnext]

theorem foldl_collects {mode : TextPart → List Char → Mode} (hmode : Collects mode stack depth) :
    ∀ (cs : List Char) (p q : TextPart) (spelled : List Char), p.after? cs = some q →
      cs.foldl step (.reading (mode p spelled) stack depth) =
        .reading (mode q (cs.reverse ++ spelled)) stack depth
  | [], p, q, spelled, h => by
    rw [TextPart.after?, Option.some_inj] at h
    rw [h]
    rfl
  | c :: cs, p, q, spelled, h => by
    rw [TextPart.after?] at h
    by_cases hquote : p = .plain ∧ c = '"'
    · rw [if_pos hquote] at h
      exact absurd h (by simp)
    · rw [if_neg hquote, Option.bind_eq_some_iff] at h
      obtain ⟨mid, hnext, hrest⟩ := h
      have ih := foldl_collects hmode cs mid q (c :: spelled) hrest
      rw [List.foldl_cons, step, hmode p mid spelled c hquote hnext, ih, List.reverse_cons,
        List.append_assoc]
      rfl

/-- A spelling is collected whole, up to the quote that ends it. -/
theorem foldl_spelled {mode : TextPart → List Char → Mode} (hmode : Collects mode stack depth)
    {s : List Char} (hs : isSpelled s = true) :
    (s ++ ['"']).foldl step (.reading (mode .plain []) stack depth) =
      stepMode '"' (mode .plain s.reverse) stack depth := by
  have hcollect := foldl_collects hmode s .plain .plain [] (of_decide_eq_true hs)
  rw [List.append_nil] at hcollect
  rw [List.foldl_append, hcollect]
  rfl

theorem foldl_text {s : List Char} (hs : isSpelled s = true) :
    (s ++ ['"']).foldl step (.reading (.text .plain []) stack depth) =
      deliver (.string s) (.scalar (.string s)) stack depth := by
  rw [foldl_spelled collects_text hs, stepMode, if_pos ⟨rfl, rfl⟩, List.reverse_reverse]

theorem foldl_key {k : List Char} (hk : isSpelled k = true) (done : List (List Char × Json)) :
    (k ++ ['"']).foldl step (.reading (.keyText done .plain []) stack depth) =
      .reading (.colon done k) stack depth := by
  rw [foldl_spelled (collects_keyText done) hk, stepMode, if_pos ⟨rfl, rfl⟩, List.reverse_reverse]

theorem next?_mark (part : NumberPart) {c : Char} (hc : isMark c = true) : part.next? c = none := by
  simp only [isMark, Bool.or_eq_true, decide_eq_true_eq] at hc
  obtain (rfl | rfl) | rfl := hc <;> cases part <;> decide

theorem hasRead_number {part : NumberPart} (hend : part.mayEnd = true) (n : List Char) :
    HasRead (.reading (.number part n.reverse) stack depth) (.number n) depth stack := by
  cases stack with
  | nil => simp only [HasRead, State.finish?, hend, ↓reduceIte, List.reverse_reverse]
  | cons frame stack =>
    intro c hc
    rw [step, stepMode, next?_mark part hc]
    simp only [hend, ↓reduceIte, List.reverse_reverse]
    cases frame <;> rfl

theorem next?_space (part : NumberPart) {c : Char} (hc : isSpace c = true) :
    part.next? c = none := by
  simp only [isSpace, Bool.or_eq_true, decide_eq_true_eq] at hc
  obtain ((rfl | rfl) | rfl) | rfl := hc <;> cases part <;> decide

/-- A number is handed on by the blank after it. -/
theorem settles_number {part : NumberPart} (hend : part.mayEnd = true) (n : List Char) :
    Settles (.reading (.number part n.reverse) stack depth) (.number n) depth stack := by
  apply settles_of_blank (hasRead_number hend n)
  intro c hc
  have hnumber : step (.reading (.number part n.reverse) stack depth) c =
      endNumber c (.number n) stack depth := by
    rw [step, stepMode, next?_space part hc]
    simp only [hend, ↓reduceIte, List.reverse_reverse]
  rw [hnumber]
  rcases stack with _ | ⟨frame, stack⟩
  · show State.closed (.number n) (!isSpace c) = _
    rw [hc]
    rfl
  · cases frame with
    | item done =>
      show step (.reading (.afterItem (.number n :: done)) stack depth) c = _
      exact step_between rfl hc
    | member done key =>
      show step (.reading (.afterMember ((key, .number n) :: done)) stack depth) c = _
      exact step_between rfl hc

theorem foldl_number : ∀ (cs : List Char) (p q : NumberPart) (spelled : List Char),
    cs.foldlM NumberPart.next? p = some q →
    cs.foldl step (.reading (.number p spelled) stack depth) =
      .reading (.number q (cs.reverse ++ spelled)) stack depth
  | [], p, q, spelled, h => by
    rw [List.foldlM_nil, Option.pure_def, Option.some_inj] at h
    rw [h]
    rfl
  | c :: cs, p, q, spelled, h => by
    rw [List.foldlM_cons, Option.bind_eq_bind, Option.bind_eq_some_iff] at h
    obtain ⟨mid, hnext, hrest⟩ := h
    have ih := foldl_number cs mid q (c :: spelled) hrest
    rw [List.foldl_cons, step, stepMode, hnext, ih, List.reverse_cons, List.append_assoc]
    rfl

theorem startValue_number {c : Char} {p : NumberPart} (h : NumberPart.start? c = some p) :
    startValue c stack depth = .reading (.number p [c]) stack depth := by
  unfold NumberPart.start? NumberPart.next? at h
  by_cases hminus : c = '-'
  · subst hminus
    obtain rfl : NumberPart.sign = p := by simpa using h
    rfl
  by_cases hzero : c = '0'
  · subst hzero
    obtain rfl : NumberPart.zero = p := by simpa using h
    rfl
  by_cases hdigit : c.isDigit = true
  · obtain rfl : NumberPart.whole = p := by simpa [hminus, hzero, hdigit] using h
    unfold startValue
    split <;> simp_all
  · simp [hminus, hzero, hdigit] at h

/-- A character of a value that is not passed over, nor the end of an array. -/
def isFirst (c : Char) : Bool := !isSpace c && c != ']'

theorem start?_isFirst {c : Char} {p : NumberPart} (h : NumberPart.start? c = some p) :
    isFirst c = true := by
  cases hfirst : isFirst c with
  | true => rfl
  | false =>
    have hc : c = ' ' ∨ c = '\t' ∨ c = '\n' ∨ c = '\r' ∨ c = ']' := by
      simpa [isFirst, isSpace, Decidable.imp_iff_not_or, or_assoc] using hfirst
    obtain rfl | rfl | rfl | rfl | rfl := hc <;> cases h

/-- The first token of a document starts with a character that starts a value. -/
theorem tokens_first {room : Nat} (h : v.fits room = true) :
    ∃ c cs ts, v.tokens = (c :: cs) :: ts ∧ isFirst c = true := by
  cases v with
  | null => exact ⟨_, _, _, rfl, rfl⟩
  | bool b => cases b <;> exact ⟨_, _, _, rfl, rfl⟩
  | string s => exact ⟨_, _, _, rfl, rfl⟩
  | array vs => cases vs <;> exact ⟨_, _, _, rfl, rfl⟩
  | object ms => rcases ms with _ | ⟨⟨k, v⟩, ms⟩ <;> exact ⟨_, _, _, rfl, rfl⟩
  | number n =>
    cases n with
    | nil => simp [fits, isNumeral] at h
    | cons c cs =>
      simp only [fits, isNumeral, Option.any_eq_true, Option.bind_eq_some_iff] at h
      obtain ⟨_, ⟨p, hp, -⟩, -⟩ := h
      exact ⟨c, cs, [], rfl, start?_isFirst hp⟩

theorem step_value {c : Char} (hc : isFirst c = true) :
    step (.reading .value stack depth) c = startValue c stack depth := by
  simp only [isFirst, Bool.and_eq_true, Bool.not_eq_true'] at hc
  simp only [step, stepMode, hc.1, Bool.false_eq_true, ↓reduceIte]

theorem step_openArray {c : Char} (hc : isFirst c = true) :
    step (.reading .openArray stack depth) c = startValue c (.item [] :: stack) depth := by
  simp only [isFirst, Bool.and_eq_true, Bool.not_eq_true', bne_iff_ne] at hc
  simp only [step, stepMode, hc.1, hc.2, Bool.false_eq_true, ↓reduceIte]

theorem settles_numeral {n : List Char} (h : isNumeral n = true) :
    Settles (n.foldl step (.reading .value stack depth)) (.number n) depth stack := by
  cases n with
  | nil => simp [isNumeral] at h
  | cons c cs =>
    simp only [isNumeral, Option.any_eq_true, Option.bind_eq_some_iff] at h
    obtain ⟨q, ⟨p, hp, hq⟩, hend⟩ := h
    rw [List.foldl_cons, step_value (start?_isFirst hp), startValue_number hp,
      foldl_number cs p q [c] hq, ← List.reverse_cons]
    exact settles_number hend (c :: cs)

/-! ### Documents -/

/-- The first item of an array is read as a value is. -/
theorem foldl_openArray {room : Nat} (h : v.fits room = true) {cs : List Char}
    (hcs : Spaced v.tokens cs) : cs.foldl step (.reading .openArray stack depth) =
      cs.foldl step (.reading .value (.item [] :: stack) depth) := by
  obtain ⟨c, token, ts, htokens, hc⟩ := tokens_first h
  rw [htokens] at hcs
  obtain _ | ⟨blank, tail⟩ := hcs
  have hopen : Mode.openArray.isBetween = true := rfl
  have hvalue : Mode.value.isBetween = true := rfl
  rw [foldl_between hopen blank, foldl_between hvalue blank, List.cons_append, List.foldl_cons,
    List.foldl_cons, step_openArray hc, step_value hc]

/-- Where a key may start, a key and its colon lead to the value. -/
theorem foldl_member (mode : Mode) {done : List (List Char × Json)} {k cs : List Char}
    {ts : List (List Char)} (hmode : mode.isBetween = true)
    (hstart : step (.reading mode stack depth) '"' = .reading (.keyText done .plain []) stack depth)
    (hk : isSpelled k = true) (h : Spaced (writeString k :: [':'] :: ts) cs) :
    ∃ rest, Spaced ts rest ∧ cs.foldl step (.reading mode stack depth) =
      rest.foldl step (.reading .value (.member done k :: stack) depth) := by
  obtain ⟨afterKey, hafterKey, hfold⟩ := foldl_token mode stack depth hmode h
  have hkey : (writeString k).foldl step (.reading mode stack depth) =
      .reading (.colon done k) stack depth := by
    rw [writeString, List.foldl_cons, hstart, foldl_key hk]
  obtain ⟨rest, hrest, hcolon⟩ := foldl_token (.colon done k) stack depth rfl hafterKey
  refine ⟨rest, hrest, ?_⟩
  rw [hfold, hkey, hcolon]
  rfl

theorem descend_of_lt {mode : Mode} (h : depth < maxDepth) :
    descend mode stack depth = .reading mode stack (depth + 1) := if_pos h

mutual

/-- **After the tokens of a document the machine has read it**, whatever blanks are
between them. -/
theorem settles_spaced : ∀ (v : Json) (room depth : Nat) (stack : List Frame) (cs : List Char),
    v.fits room = true → depth + room ≤ maxDepth → Spaced v.tokens cs →
    Settles (cs.foldl step (.reading .value stack depth)) v depth stack
  | .null, _, _, _, _, _, _, hcs => by
    rw [foldl_last rfl hcs]
    exact settles_scalar
  | .bool true, _, _, _, _, _, _, hcs => by
    rw [foldl_last rfl hcs]
    exact settles_scalar
  | .bool false, _, _, _, _, _, _, hcs => by
    rw [foldl_last rfl hcs]
    exact settles_scalar
  | .number n, _, _, _, _, h, _, hcs => by
    rw [fits] at h
    rw [foldl_last rfl hcs]
    exact settles_numeral h
  | .string s, _, _, _, _, h, _, hcs => by
    rw [fits] at h
    rw [foldl_last rfl hcs]
    show Settles ((s ++ ['"']).foldl step (.reading (.text .plain []) _ _)) _ _ _
    rw [foldl_text h]
    exact settles_scalar
  | .array _, 0, _, _, _, h, _, _ => by simp [fits] at h
  | .array [], room + 1, depth, stack, cs, _, hroom, hcs => by
    obtain ⟨rest, hrest, hfold⟩ := foldl_token .value stack depth rfl hcs
    rw [hfold]
    show Settles (rest.foldl step (descend .openArray stack depth)) _ _ _
    rw [descend_of_lt (by omega), foldl_last rfl hrest]
    exact settles_close
  | .array (v :: vs), room + 1, depth, stack, cs, h, hroom, hcs => by
    rw [fits, itemsFit, Bool.and_eq_true] at h
    obtain ⟨rest, hrest, hfold⟩ := foldl_token .value stack depth rfl hcs
    obtain ⟨first, items, hfirst, hitems, rfl⟩ := hrest.split
    have hv := settles_spaced v room (depth + 1) (.item [] :: stack) first h.1 (by omega) hfirst
    have hvs := foldl_items vs room (depth + 1) stack v [] _ items h.2 (by omega) hv hitems
    rw [hfold]
    show Settles ((first ++ items).foldl step (descend .openArray stack depth)) _ _ _
    -- the open array is one level deeper, and closing it comes back up
    rw [descend_of_lt (by omega), List.foldl_append, foldl_openArray h.1 hfirst, hvs]
    exact settles_close
  | .object _, 0, _, _, _, h, _, _ => by simp [fits] at h
  | .object [], room + 1, depth, stack, cs, _, hroom, hcs => by
    obtain ⟨rest, hrest, hfold⟩ := foldl_token .value stack depth rfl hcs
    rw [hfold]
    show Settles (rest.foldl step (descend .openObject stack depth)) _ _ _
    rw [descend_of_lt (by omega), foldl_last rfl hrest]
    exact settles_close
  | .object ((k, v) :: ms), room + 1, depth, stack, cs, h, hroom, hcs => by
    rw [fits, membersFit, Bool.and_eq_true, Bool.and_eq_true] at h
    obtain ⟨rest, hrest, hfold⟩ := foldl_token .value stack depth rfl hcs
    obtain ⟨values, hvalues, hmember⟩ := foldl_member .openObject rfl
      (show step (.reading .openObject stack (depth + 1)) '"' = _ from rfl) h.1.1 hrest
    obtain ⟨first, members, hfirst, hmembers, rfl⟩ := hvalues.split
    have hv := settles_spaced v room (depth + 1) (.member [] k :: stack) first h.1.2 (by omega)
      hfirst
    have hms := foldl_members ms room (depth + 1) stack k v [] _ members h.2 (by omega) hv hmembers
    rw [hfold]
    show Settles (rest.foldl step (descend .openObject stack depth)) _ _ _
    rw [descend_of_lt (by omega), hmember, List.foldl_append, hms]
    exact settles_close

/-- After an item, the items that follow are read up to the end of the array. -/
theorem foldl_items : ∀ (vs : List Json) (room depth : Nat) (stack : List Frame) (v : Json)
    (done : List Json) (s : State) (cs : List Char), itemsFit room vs = true →
    depth + room ≤ maxDepth → Settles s v depth (.item done :: stack) →
    Spaced (itemTokens vs ++ [[']']]) cs →
    cs.foldl step s = close (.array (done.reverse ++ v :: vs)) stack depth
  | [], _, _, stack, v, done, s, _, _, _, hs, .token blank .nil => by
    rw [List.foldl_append]
    show step (List.foldl step s _) ']' = _
    rw [hs _ blank ']' rfl, ← List.reverse_cons]
    rfl
  | w :: vs, room, depth, stack, v, done, s, _, h, hroom, hs, .token blank tail => by
    rw [itemsFit, Bool.and_eq_true] at h
    have htail : Spaced ((w.tokens ++ itemTokens vs) ++ [[']']]) _ := tail
    rw [List.append_assoc] at htail
    obtain ⟨first, items, hfirst, hitems, rfl⟩ := htail.split
    have hw := settles_spaced w room depth (.item (v :: done) :: stack) first h.1 hroom hfirst
    have hvs := foldl_items vs room depth stack w (v :: done) _ items h.2 hroom hw hitems
    rw [List.foldl_append, List.foldl_append, List.foldl_append]
    show List.foldl step (first.foldl step (step (List.foldl step s _) ',')) items = _
    rw [hs _ blank ',' rfl]
    show List.foldl step (first.foldl step (.reading .value (.item (v :: done) :: stack) depth))
      items = _
    rw [hvs, List.reverse_cons, List.append_assoc]
    rfl

/-- After a member, the members that follow are read up to the end of the
object. -/
theorem foldl_members : ∀ (ms : List (List Char × Json)) (room depth : Nat) (stack : List Frame)
    (k : List Char) (v : Json) (done : List (List Char × Json)) (s : State) (cs : List Char),
    membersFit room ms = true → depth + room ≤ maxDepth →
    Settles s v depth (.member done k :: stack) → Spaced (memberTokens ms ++ [['}']]) cs →
    cs.foldl step s = close (.object (done.reverse ++ (k, v) :: ms)) stack depth
  | [], _, _, stack, k, v, done, s, _, _, _, hs, .token blank .nil => by
    rw [List.foldl_append]
    show step (List.foldl step s _) '}' = _
    rw [hs _ blank '}' rfl, ← List.reverse_cons]
    rfl
  | (k', w) :: ms, room, depth, stack, k, v, done, s, _, h, hroom, hs, .token blank tail => by
    rw [membersFit, Bool.and_eq_true, Bool.and_eq_true] at h
    obtain ⟨values, hvalues, hmember⟩ := foldl_member (.keyStart ((k, v) :: done)) rfl
      (show step (.reading (.keyStart ((k, v) :: done)) stack depth) '"' = _ from rfl) h.1.1 tail
    have htail : Spaced ((w.tokens ++ memberTokens ms) ++ [['}']]) _ := hvalues
    rw [List.append_assoc] at htail
    obtain ⟨first, members, hfirst, hmembers, rfl⟩ := htail.split
    have hw := settles_spaced w room depth (.member ((k, v) :: done) k' :: stack) first h.1.2 hroom
      hfirst
    have hms := foldl_members ms room depth stack k' w ((k, v) :: done) _ members h.2 hroom hw
      hmembers
    rw [List.foldl_append, List.foldl_append]
    show List.foldl step (step (List.foldl step s _) ',') _ = _
    rw [hs _ blank ',' rfl]
    show List.foldl step (.reading (.keyStart ((k, v) :: done)) stack depth) _ = _
    rw [hmember, List.foldl_append, hms, List.reverse_cons, List.append_assoc]
    rfl

end

end Reader

/-- **Every text of a document is read as the document**, with nothing after it. -/
theorem finish?_text {v : Json} (h : v.fits maxDepth = true) {text : List Char}
    (htext : IsText v text) : (Reader.run text).finish? = some (v, false) := by
  obtain ⟨inner, blanks, hinner, hblank, rfl⟩ := htext
  have hread := Reader.settles_spaced v maxDepth 0 [] inner h (by omega) hinner blanks hblank
  rw [Reader.run, List.foldl_append]
  exact hread

/-- **Reading undoes writing**: a document that fits is read back from its text. -/
theorem parse?_write {v : Json} (h : v.fits maxDepth = true) : parse? v.write = some v := by
  have htext : IsText v v.write := List.append_nil v.write ▸ isText_write v (by rfl)
  rw [parse?, finish?_text h htext]

/-! ### Documents that are built -/

theorem ofText_fits (s : String) (room : Nat) : (ofText s).fits room = true := by
  rw [ofText, fits, isSpelled_ofText]

theorem ofMembers_fits {room : Nat} {ms : List (String × Json)}
    (h : ∀ m ∈ ms, m.2.fits room = true) : (ofMembers ms).fits (room + 1) = true := by
  rw [ofMembers, fits]
  induction ms with
  | nil => rfl
  | cons m ms ih =>
    have hhead := h m List.mem_cons_self
    have hrest := ih fun x hx => h x (List.mem_cons_of_mem m hx)
    rw [List.map_cons, membersFit, isSpelled_ofText, hhead, hrest]
    rfl

end Json
end PaymentGateway
