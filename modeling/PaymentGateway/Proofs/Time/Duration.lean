/-
# Durations in writing

A duration in writing is a sign or none and a sequence of terms, each a number with a unit
(`Term`); a zero may stand alone. The texts that are read as durations are those whose terms
fit into 64 bits (`read_iff`). A number ends where its unit starts and a unit where the next
number does, so a text has no second reading.

Terms fit if each is within the limit and every front of them adds up to no more than that
(`Fits`). The sum is one of 64 bits without sign, which makes a difference in one case only:
a term of the limit on top of a sum of the limit starts again from nothing.

A term is worth its whole units and its fraction of one, which is scaled in doubles. Of the
fraction as many digits count as make a number up to the limit (`Number.counted`).

Key definitions: `Duration.Number`, `Duration.Term`, `Duration.Fits`, `Duration.Spells`.
Key theorems: `Duration.fraction_eq`, `Duration.number_text`, `Duration.number_some`,
`Duration.fits_cons`, `Duration.terms_text`, `Duration.terms_some`, `Duration.read_iff`.
-/
import Mathlib.Data.Nat.Find
import PaymentGateway.Proofs.Number.Signed
import PaymentGateway.Proofs.Text.Trimming
import PaymentGateway.Time.Duration

namespace PaymentGateway
namespace Duration

/-- A number in writing: whole digits, and perhaps a point and digits after it. One of the
two has a digit. -/
structure Number where
  whole : List Char
  fraction : Option (List Char)
  decimal : ∀ c ∈ whole, c.isDigit = true
  fractionDecimal : ∀ c ∈ fraction.getD [], c.isDigit = true
  isSome : whole ≠ [] ∨ fraction.getD [] ≠ []

namespace Number

/-- The characters of a number. -/
def text (x : Number) : List Char := x.whole ++ (x.fraction.map ('.' :: ·)).getD []

/-- The digits of the fraction that count: as many as make a number up to the limit. -/
def counted (ds : List Char) : List Char :=
  ds.take (Nat.findGreatest (fun k => Digits.naive (ds.take k) ≤ limit) ds.length)

/-- The whole nanoseconds of so many units of `unit` nanoseconds. -/
def times (x : Number) (unit : Nat) : Nat :=
  let ds := counted (x.fraction.getD [])
  Digits.naive x.whole * unit + scale (Digits.naive ds) ds.length unit

end Number

/-- The units and their nanoseconds. -/
def units : List (String × Nat) :=
  [("ns", 1), ("us", 1000), ("µs", 1000), ("μs", 1000), ("ms", 1000000), ("s", 1000000000),
    ("m", 60000000000), ("h", 3600000000000)]

/-- A term in writing: a number and a unit of so many nanoseconds. -/
structure Term where
  number : Number
  unit : String
  nanos : Nat
  isUnit : (unit, nanos) ∈ units

/-- The characters of a term. -/
def Term.text (t : Term) : List Char := t.number.text ++ t.unit.toList

/-- The nanoseconds of a term. -/
def Term.worth (t : Term) : Nat := t.number.times t.nanos

/-- The nanoseconds of several terms. -/
def total : List Term → Nat
  | [] => 0
  | t :: ts => t.worth + total ts

/-- Terms that fit when they are added to `start`: each is within the limit, and so is the sum
in 64 bits of those up to any of them. -/
structure Fits (start : Nat) (ts : List Term) : Prop where
  each : ∀ t ∈ ts, t.worth ≤ limit
  front : ∀ front, front <+: ts → add64 start (total front) ≤ limit

/-- **A text spells a duration**: a sign or none, and a zero or terms that fit, whose sum it is. -/
def Spells (s : String) (d : Int) : Prop :=
  ∃ sign : Sign, Word d ∧ (s.toList = sign.text ++ ['0'] ∧ d = 0 ∨
    ∃ ts : List Term, ts ≠ [] ∧ s.toList = sign.text ++ ts.flatMap Term.text ∧ Fits 0 ts ∧
      d = sign.apply (add64 0 (total ts)))

/-! ### The fraction -/

theorem naive_le_append (xs ys : List Char) : Digits.naive xs ≤ Digits.naive (xs ++ ys) := by
  rw [Digits.naive, Digits.naive, List.foldl_append]
  exact Integer.le_foldl_digits ys _

theorem naive_concat (xs : List Char) (c : Char) :
    Digits.naive (xs ++ [c]) = Digits.naive xs * 10 + Digits.digit c := by
  rw [Digits.naive, List.foldl_append, Nat.mul_comm]
  rfl

/-- The two tests of a digit are one: a number above a tenth of the limit has no next digit. -/
theorem overflows_iff (n d : Nat) :
    ((limit - 1) / 10 < n ∨ limit < n * 10 + d) ↔ limit < n * 10 + d := by
  have hlimit : limit = 9223372036854775808 := by decide
  omega

/-- The digits before the first that is too much are those that count. -/
theorem counted_append {xs ds : List Char} {c : Char} (hxs : Digits.naive xs ≤ limit)
    (hover : limit < Digits.naive (xs ++ [c])) : Number.counted (xs ++ c :: ds) = xs := by
  have hgreatest : Nat.findGreatest (fun k => Digits.naive ((xs ++ c :: ds).take k) ≤ limit)
      (xs ++ c :: ds).length = xs.length := by
    refine Nat.findGreatest_eq_iff.mpr ⟨by simp, fun _ => by simpa using hxs, ?_⟩
    intro k hk _ hcounts
    have hprefix : xs ++ [c] <+: (xs ++ c :: ds).take k :=
      List.prefix_take_iff.mpr ⟨⟨ds, by simp⟩, by simpa using Nat.succ_le_of_lt hk⟩
    obtain ⟨more, hmore⟩ := hprefix
    have hle := naive_le_append (xs ++ [c]) more
    rw [hmore] at hle
    omega
  rw [Number.counted, hgreatest, List.take_left]

/-- **Reading a fraction** keeps the digits that count. -/
theorem fraction_eq : ∀ (ds xs : List Char), Digits.naive xs ≤ limit →
    fraction (Digits.naive xs) xs.length ds =
      (Digits.naive (Number.counted (xs ++ ds)), (Number.counted (xs ++ ds)).length)
  | [], xs, hxs => by
    have hall : Number.counted xs = xs := by
      rw [Number.counted, Nat.findGreatest_eq (by rwa [List.take_length]), List.take_length]
    rw [List.append_nil, hall]
    rfl
  | c :: ds, xs, hxs => by
    have hstep := fraction_eq ds (xs ++ [c])
    rw [List.append_assoc, List.singleton_append, List.length_append, naive_concat] at hstep
    simp only [fraction, overflows_iff]
    split
    · next hover =>
      rw [← naive_concat] at hover
      rw [counted_append hxs hover]
    · next hfits => exact hstep (Nat.le_of_not_lt hfits)

theorem fraction_digits (ds : List Char) :
    fraction 0 0 ds = (Digits.naive (Number.counted ds), (Number.counted ds).length) :=
  fraction_eq ds [] (by decide)

/-- The fraction 0 needs no case of its own. -/
theorem ite_scale (n places unit : Nat) :
    (if n = 0 then 0 else scale n places unit) = scale n places unit := by
  split
  · next hn =>
    rw [hn]
    simp [scale, Binary64.nearest, Binary64.times, Binary64.ratio, Binary64.truncate]
  · rfl

theorem Number.times_eq (x : Number) (unit : Nat) : Digits.naive x.whole * unit +
    scale (Digits.naive (counted (x.fraction.getD []))) (counted (x.fraction.getD [])).length unit =
      x.times unit := rfl

theorem Number.whole_le_times (x : Number) (unit : Nat) :
    Digits.naive x.whole * unit ≤ x.times unit := Nat.le_add_right _ _

/-! ### Numbers -/

/-- A text that goes on with no digit and no point. -/
def EndsNumber (rest : List Char) : Prop := ∀ c, rest.head? = some c → isNumeric c = false

theorem EndsNumber.digit {rest : List Char} (h : EndsNumber rest) :
    ∀ c, rest.head? = some c → c.isDigit = false := by
  intro c hc
  have hno := h c hc
  simp only [isNumeric, Bool.or_eq_false_iff] at hno
  exact hno.1

theorem EndsNumber.ne_point {rest : List Char} (h : EndsNumber rest) (more : List Char) :
    rest ≠ '.' :: more := by
  rintro rfl
  cases h '.' rfl

/-- **A number comes off the front** of a text that goes on with something else. -/
theorem number_text (x : Number) {rest : List Char} (hrest : EndsNumber rest)
    (hwhole : Digits.naive x.whole ≤ limit) :
    number (x.text ++ rest) = .ok (Digits.naive x.whole,
      Digits.naive (Number.counted (x.fraction.getD [])),
      (Number.counted (x.fraction.getD [])).length, rest) := by
  have hfits : ¬ limit < Digits.naive x.whole := Nat.not_lt.mpr hwhole
  have hsome := x.isSome
  have hpoint : ∀ c, ('.' :: (x.fraction.getD [] ++ rest)).head? = some c → c.isDigit = false := by
    rintro c ⟨rfl⟩
    rfl
  obtain ⟨hplain, hplainRest⟩ := Text.span_append x.decimal hrest.digit
  obtain ⟨hbefore, hafter⟩ := Text.span_append x.decimal hpoint
  obtain ⟨hdigits, hdigitsRest⟩ := Text.span_append x.fractionDecimal hrest.digit
  unfold Number.text
  cases hx : x.fraction with
  | none =>
    have hne : x.whole ≠ [] := by simpa [hx] using hsome
    simp only [number, Option.map_none, Option.getD_none, List.append_nil, hplain, hplainRest,
      Digits.value_eq_naive, hfits, ↓reduceIte, List.isEmpty_iff, hne]
    split
    · exact (hrest.ne_point _ rfl).elim
    · rfl
  | some ds =>
    rw [hx, Option.getD_some] at hsome hbefore hafter hdigits hdigitsRest
    have hne : ¬ (x.whole = [] ∧ ds = []) := by
      rintro ⟨hw, hd⟩
      exact hsome.elim (· hw) (· hd)
    simp only [number, Option.map_some, Option.getD_some, List.append_assoc, List.cons_append,
      hbefore, hafter, hdigits, hdigitsRest, Digits.value_eq_naive, hfits, ↓reduceIte,
      List.isEmpty_iff, hne, fraction_digits]

/-- What is read as a number is one, in writing. -/
theorem number_some {cs rest : List Char} {n f places : Nat}
    (h : number cs = .ok (n, f, places, rest)) :
    ∃ x : Number, cs = x.text ++ rest ∧ n = Digits.naive x.whole ∧
      f = Digits.naive (Number.counted (x.fraction.getD [])) ∧
      places = (Number.counted (x.fraction.getD [])).length := by
  have hwhole : ∀ c ∈ cs.takeWhile Char.isDigit, c.isDigit = true :=
    List.all_eq_true.mp List.all_takeWhile
  have hsplit := List.takeWhile_append_dropWhile (p := Char.isDigit) (l := cs)
  unfold number at h
  simp only [Digits.value_eq_naive] at h
  split at h
  · cases h
  · split at h
    · next more hmore =>
      split at h
      · cases h
      · next hne =>
        have hdigits : ∀ c ∈ more.takeWhile Char.isDigit, c.isDigit = true :=
          List.all_eq_true.mp List.all_takeWhile
        simp only [List.isEmpty_iff, not_and_or] at hne
        rw [fraction_digits] at h
        cases h
        refine ⟨⟨_, some (more.takeWhile Char.isDigit), hwhole, hdigits, hne⟩, ?_, rfl, rfl, rfl⟩
        simp only [Number.text, Option.map_some, Option.getD_some, List.append_assoc,
          List.cons_append, List.takeWhile_append_dropWhile]
        rw [← hmore, hsplit]
    · split at h
      · cases h
      · next hne =>
        cases h
        refine ⟨⟨_, none, hwhole, by simp, .inl (by simpa using hne)⟩, ?_, rfl, rfl, rfl⟩
        simp only [Number.text, Option.map_none, Option.getD_none, List.append_nil]
        exact hsplit.symm

/-! ### Units -/

theorem unit?_iff {u : String} {n : Nat} : unit? u = some n ↔ (u, n) ∈ units := by
  constructor
  · intro h
    unfold unit? at h
    split at h <;> cases h <;> decide +kernel
  · have hall : ∀ x ∈ units, unit? x.1 = some x.2 := by decide +kernel
    exact hall (u, n)

/-- The name of a unit has characters, none of a number. -/
theorem units_name : ∀ x ∈ units, x.1.toList ≠ [] ∧ 0 < x.2 ∧
    ∀ c ∈ x.1.toList, isNumeric c = false := by
  have hall : ∀ x ∈ units, x.1.toList ≠ [] ∧ 0 < x.2 ∧
      x.1.toList.all (fun c => !isNumeric c) = true := by decide +kernel
  intro x hx
  obtain ⟨hname, hpos, hchars⟩ := hall x hx
  exact ⟨hname, hpos, by simpa using hchars⟩

namespace Term

variable (t : Term)

theorem unit_ne_nil : t.unit.toList ≠ [] := (units_name _ t.isUnit).1

theorem nanos_pos : 0 < t.nanos := (units_name _ t.isUnit).2.1

/-- A number ends at its unit. -/
theorem endsNumber_unit (rest : List Char) : EndsNumber (t.unit.toList ++ rest) := by
  obtain ⟨c, cs, hunit⟩ := List.exists_cons_of_ne_nil t.unit_ne_nil
  have hno := (units_name _ t.isUnit).2.2 c (by rw [hunit]; exact List.mem_cons_self)
  rw [hunit]
  rintro x ⟨rfl⟩
  exact hno

/-- A term starts with a digit or a point. -/
theorem text_eq_cons : ∃ c cs, t.text = c :: cs ∧ isNumeric c = true := by
  unfold text Number.text
  cases hwhole : t.number.whole with
  | cons c cs =>
    have hdigit := t.number.decimal c (by rw [hwhole]; exact List.mem_cons_self)
    exact ⟨c, _, rfl, by simp [isNumeric, hdigit]⟩
  | nil =>
    cases hfraction : t.number.fraction with
    | some ds => exact ⟨'.', _, rfl, rfl⟩
    | none =>
      have hsome := t.number.isSome
      simp [hwhole, hfraction] at hsome

end Term

/-- A unit ends where the next term starts, or at the end. -/
theorem head?_terms (ts : List Term) :
    ∀ c, (ts.flatMap Term.text).head? = some c → (!isNumeric c) = false := by
  intro c hc
  cases ts with
  | nil => cases hc
  | cons t ts =>
    obtain ⟨x, xs, htext, hx⟩ := t.text_eq_cons
    rw [List.flatMap_cons, htext] at hc
    cases hc
    simp [hx]

/-! ### Sums of terms -/

theorem add64_zero {n : Nat} (h : n ≤ limit) : add64 n 0 = n :=
  Nat.mod_eq_of_lt (Nat.lt_of_le_of_lt h (by decide))

theorem add64_add (k m n : Nat) : add64 k (m + n) = add64 (add64 k m) n := by
  rw [add64, add64, add64, Nat.mod_add_mod, Nat.add_assoc]

theorem Fits.total_le {start : Nat} {ts : List Term} (h : Fits start ts) :
    add64 start (total ts) ≤ limit := h.front ts List.prefix_rfl

theorem fits_nil {start : Nat} (h : start ≤ limit) : Fits start [] where
  each t ht := nomatch ht
  front front hfront := by
    rw [List.prefix_nil.mp hfront, total, add64_zero h]
    exact h

/-- Terms fit if the first does and the others fit when they are added to its sum. -/
theorem fits_cons {start : Nat} {t : Term} {ts : List Term} (hstart : start ≤ limit) :
    Fits start (t :: ts) ↔ t.worth ≤ limit ∧ Fits (add64 start t.worth) ts := by
  constructor
  · intro h
    refine ⟨h.each t List.mem_cons_self, fun u hu => h.each u (List.mem_cons_of_mem t hu), ?_⟩
    intro front hfront
    rw [← add64_add]
    exact h.front (t :: front) (List.prefix_cons_inj t |>.mpr hfront)
  · rintro ⟨hworth, h⟩
    refine ⟨List.forall_mem_cons.mpr ⟨hworth, h.each⟩, ?_⟩
    intro front hfront
    rcases List.prefix_cons_iff.mp hfront with rfl | ⟨rest, rfl, hrest⟩
    · rw [total, add64_zero hstart]
      exact hstart
    · rw [total, add64_add]
      exact h.front rest hrest

/-! ### Terms -/

/-- One term is read, and the rest onto it. -/
theorem terms_cons (t : Term) (ts : List Term) {fuel start : Nat} (hworth : t.worth ≤ limit)
    (hsum : add64 start t.worth ≤ limit) :
    terms (fuel + 1) start (t.text ++ ts.flatMap Term.text) =
      terms fuel (add64 start t.worth) (ts.flatMap Term.text) := by
  have hpos := t.nanos_pos
  have hunits : Digits.naive t.number.whole * t.nanos ≤ limit :=
    Nat.le_trans (t.number.whole_le_times t.nanos) hworth
  have hwhole : Digits.naive t.number.whole ≤ limit / t.nanos :=
    (Nat.le_div_iff_mul_le hpos).mpr hunits
  have hnumber := number_text t.number (t.endsNumber_unit (ts.flatMap Term.text))
    (Nat.le_trans hwhole (Nat.div_le_self _ _))
  have hname : ∀ c ∈ t.unit.toList, (!isNumeric c) = true := by
    intro c hc
    rw [(units_name _ t.isUnit).2.2 c hc]
    rfl
  obtain ⟨htake, hdrop⟩ := Text.span_append hname (head?_terms ts)
  obtain ⟨c, cs, htext, -⟩ := t.text_eq_cons
  have hcons : c :: (cs ++ ts.flatMap Term.text) =
      t.number.text ++ (t.unit.toList ++ ts.flatMap Term.text) := by
    rw [← List.cons_append, ← htext, Term.text, List.append_assoc]
  rw [htext, List.cons_append, terms, hcons, hnumber]
  simp only [bind, Except.bind, htake, hdrop, List.isEmpty_iff, t.unit_ne_nil, ↓reduceIte,
    String.ofList_toList, unit?_iff.mpr t.isUnit, Nat.not_lt.mpr hwhole, ite_scale,
    Number.times_eq]
  exact if_neg (not_or.mpr ⟨Nat.not_lt.mpr hworth, Nat.not_lt.mpr hsum⟩)

/-- **A sequence of terms that fit is read as its sum.** -/
theorem terms_text : ∀ (ts : List Term) {fuel start : Nat},
    (ts.flatMap Term.text).length ≤ fuel → start ≤ limit → Fits start ts →
    terms fuel start (ts.flatMap Term.text) = .ok (add64 start (total ts))
  | [], fuel, start, _, hstart, _ => by
    rw [total, add64_zero hstart]
    cases fuel <;> rfl
  | t :: ts, fuel, start, hfuel, hstart, hfits => by
    obtain ⟨hworth, hrest⟩ := (fits_cons hstart).mp hfits
    have hsum : add64 start t.worth ≤ limit := hfits.front [t] ⟨ts, rfl⟩
    obtain ⟨c, cs, htext, -⟩ := t.text_eq_cons
    have hlength : (ts.flatMap Term.text).length < fuel := by
      rw [List.flatMap_cons, htext, List.length_append, List.length_cons] at hfuel
      omega
    obtain ⟨fuel, rfl⟩ := Nat.exists_eq_add_one_of_ne_zero (Nat.ne_zero_of_lt hlength)
    rw [List.flatMap_cons, terms_cons t ts hworth hsum,
      terms_text ts (Nat.le_of_lt_succ hlength) hsum hrest, total, add64_add]

/-- **What is read is a sequence of terms that fit**, and their sum. -/
theorem terms_some : ∀ {fuel start : Nat} {cs : List Char} {n : Nat}, start ≤ limit →
    terms fuel start cs = .ok n →
    ∃ ts : List Term, cs = ts.flatMap Term.text ∧ Fits start ts ∧ n = add64 start (total ts)
  | _, start, [], n, hstart, h => by
    have hn : start = n := by
      unfold terms at h
      exact Except.ok.inj h
    exact ⟨[], rfl, fits_nil hstart, hn ▸ (add64_zero hstart).symm⟩
  | 0, _, c :: cs, n, _, h => by cases h
  | fuel + 1, start, c :: cs, n, hstart, h => by
    rw [terms] at h
    cases hnumber : number (c :: cs) with
    | error f =>
      rw [hnumber] at h
      cases h
    | ok parts =>
      obtain ⟨whole, f, places, rest⟩ := parts
      obtain ⟨x, htext, rfl, rfl, rfl⟩ := number_some hnumber
      simp only [hnumber, bind, Except.bind, ite_scale, Number.times_eq] at h
      -- a term fails without a unit, with an unknown one, and at the two bounds
      split at h
      · cases h
      · split at h
        · cases h
        · next unit hunit =>
          split at h
          · cases h
          · split at h
            · cases h
            · next hbounds =>
              obtain ⟨hworth, hsum⟩ := not_or.mp hbounds
              let t : Term := ⟨x, _, unit, unit?_iff.mp hunit⟩
              obtain ⟨ts, hts, hfits, rfl⟩ := terms_some (Nat.le_of_not_lt hsum) h
              refine ⟨t :: ts, ?_, (fits_cons hstart).mpr ⟨Nat.le_of_not_lt hworth, hfits⟩,
                (add64_add start t.worth (total ts)).symm⟩
              rw [List.flatMap_cons, ← hts, Term.text, String.toList_ofList, List.append_assoc,
                List.takeWhile_append_dropWhile, htext]

/-! ### Whole durations -/

theorem unsigned_terms {ts : List Term} (h : ts ≠ []) :
    ts.flatMap Term.text ≠ [] ∧ Decimal.Unsigned (ts.flatMap Term.text) := by
  obtain ⟨t, ts, rfl⟩ := List.exists_cons_of_ne_nil h
  obtain ⟨c, cs, htext, hc⟩ := t.text_eq_cons
  rw [List.flatMap_cons, htext]
  refine ⟨List.cons_ne_nil _ _, ?_⟩
  constructor <;> rintro ⟨rfl⟩ <;> cases hc

/-- What is read of the terms has to fit into 64 bits with its sign. -/
theorem read_terms {s : String} {d : Int} {sign : Sign} {body : List Char}
    (htake : Decimal.takeSign s.toList = (decide (sign = .minus), body)) (hzero : body ≠ ['0'])
    (hne : body ≠ []) :
    read s = .ok d ↔ ∃ n, terms body.length 0 body = .ok n ∧ d = sign.apply n ∧ Word d := by
  simp only [read, htake, hzero, List.isEmpty_iff, hne, ↓reduceIte]
  cases hterms : terms body.length 0 body with
  | error f =>
    constructor
    · rintro ⟨⟩
    · rintro ⟨n, ⟨⟩, -⟩
  | ok n =>
    obtain ⟨ts, -, hfits, hsum⟩ := terms_some (Nat.zero_le _) hterms
    have hn : n ≤ limit := hsum ▸ hfits.total_le
    have hlimit : limit = 9223372036854775808 := by decide
    have hcheck := sign.check_eq n Fault.invalid
    rw [hlimit] at hn
    rw [if_neg (Nat.not_lt.mpr hn)] at hcheck
    simp only [bind, Except.bind, Except.ok.injEq, exists_eq_left', hlimit, hcheck]
    split
    · next hword =>
      constructor
      · rintro ⟨⟩
        exact ⟨rfl, hword⟩
      · rintro ⟨rfl, -⟩
        rfl
    · next hword =>
      constructor
      · rintro ⟨⟩
      · rintro ⟨rfl, hd⟩
        exact absurd hd hword

/-- A zero that stands alone is no term: it has no unit. -/
theorem terms_ne_zero (ts : List Term) : ts.flatMap Term.text ≠ ['0'] := by
  intro hzero
  cases ts with
  | nil => cases hzero
  | cons t ts =>
    obtain ⟨c, cs, hunit⟩ := List.exists_cons_of_ne_nil t.unit_ne_nil
    have hname : c ∈ t.unit.toList := by rw [hunit]; exact List.mem_cons_self
    have hno := (units_name _ t.isUnit).2.2 c hname
    have hmem : c ∈ (t :: ts).flatMap Term.text := by simp [Term.text, hname]
    rw [hzero, List.mem_singleton] at hmem
    rw [hmem] at hno
    cases hno

/-- **The texts that are read as durations** are those that spell one. -/
theorem read_iff {s : String} {d : Int} : read s = .ok d ↔ Spells s d := by
  constructor
  · intro h
    obtain ⟨sign, body, hs, htake⟩ := Decimal.exists_sign s.toList
    by_cases hzero : body = ['0']
    · simp only [read, htake, hzero, ↓reduceIte] at h
      cases h
      exact ⟨sign, by decide, .inl ⟨hzero ▸ hs, rfl⟩⟩
    · by_cases hne : body = []
      · simp only [read, htake, hne, List.isEmpty_nil, ↓reduceIte] at h
        cases h
      · obtain ⟨n, hterms, hd, hword⟩ := (read_terms htake hzero hne).mp h
        obtain ⟨ts, hts, hfits, rfl⟩ := terms_some (Nat.zero_le _) hterms
        refine ⟨sign, hword, .inr ⟨ts, ?_, hts ▸ hs, hfits, hd⟩⟩
        rintro rfl
        exact hne hts
  · rintro ⟨sign, hword, ⟨hs, rfl⟩ | ⟨ts, hne, hs, hfits, rfl⟩⟩
    · have htake := Decimal.takeSign_text sign
        (Decimal.unsigned_of_digit (by decide : '0'.isDigit = true) [])
      rw [← hs] at htake
      simp only [read, htake, ↓reduceIte]
    · obtain ⟨hnil, hunsigned⟩ := unsigned_terms hne
      have htake := Decimal.takeSign_text sign hunsigned
      rw [← hs] at htake
      exact (read_terms htake (terms_ne_zero ts) hnil).mpr
        ⟨_, terms_text ts (Nat.le_refl _) (Nat.zero_le _) hfits, rfl, hword⟩

end Duration
end PaymentGateway
