/-
# The audit line shows the instant

The time of an event is a field of its envelope like the others: a member that is no time leaves
it alone (`Raw.take_timed`), and a time that is read replaces it (`Raw.take_isTime`). So the last
time of a message is the time of its event, and the line of the event is the line it would have
without a time, followed by that time (`describe_timed`). What is shown of a moment is its instant,
not its offset; hence messages whose times are other spellings of the same instants have the same
line (`describe_sameInstant`). What is shown is the date of the instant's day, counted day by day,
and the whole milliseconds of the day (`timeText_eq`).

Key definitions: `Audit.SameInstant`, `Audit.millisText`, `Audit.clause`.
Key theorems: `Audit.describe_sameInstant`, `Audit.describe_timed`, `Audit.line_shows_instant`.
-/
import Mathlib.Data.List.Forall2
import PaymentGateway.Event.Audit
import PaymentGateway.Proofs.Event.RoundTrip
import PaymentGateway.Proofs.Time.Stamp

namespace PaymentGateway

/-! ### The time of an envelope -/

namespace Envelope.Raw

/-- A member that is the time of an event. -/
def isTime (member : List Char × Json) : Bool := Json.Field.named "occurredAt" member.1

/-- The fields with another time. -/
def timed (m : Moment) (r : Raw) : Raw :=
  { r with envelope := { r.envelope with occurredAt := m } }

theorem timed_timed (m m' : Moment) (r : Raw) : (r.timed m').timed m = r.timed m := rfl

theorem timed_self (r : Raw) : r.timed r.envelope.occurredAt = r := rfl

/-- A time is taken by the time field. -/
theorem take_isTime (r : Raw) {key : List Char} {v : Json} (h : isTime (key, v) = true) :
    r.take key v = (timeField r.envelope.occurredAt v).map fun m => r.timed m := by
  have hkey : (Json.Spelling.value key).toList.map Json.Field.foldChar =
      "occurredAt".toList.map Json.Field.foldChar := by simpa [isTime, Json.Field.named] using h
  have htype : Json.Field.named "eventType" key = false := by
    rw [Json.Field.named, hkey]
    decide
  have hversion : Json.Field.named "eventVersion" key = false := by
    rw [Json.Field.named, hkey]
    decide
  have htime : Json.Field.named "occurredAt" key = true := h
  simp only [take, htype, hversion, htime, Bool.false_eq_true, ↓reduceIte]
  rfl

/-- A member that is no time leaves the time alone. -/
theorem take_timed (r : Raw) (m : Moment) {key : List Char} {v : Json}
    (h : isTime (key, v) = false) : (r.timed m).take key v = (r.take key v).map (timed m) := by
  have htime : Json.Field.named "occurredAt" key = false := h
  simp only [take, htime, Bool.false_eq_true, ↓reduceIte]
  split
  · rw [Option.map_map]
    rfl
  · split
    · rw [Option.map_map]
      rfl
    · split
      · rw [Option.map_map]
        rfl
      · split <;> rfl

theorem take_keeps {r s : Raw} {key : List Char} {v : Json} (h : isTime (key, v) = false)
    (htake : r.take key v = some s) : s.envelope.occurredAt = r.envelope.occurredAt := by
  have hsame := take_timed r r.envelope.occurredAt h
  rw [timed_self, htake] at hsame
  exact congrArg (fun r => r.envelope.occurredAt) (Option.some.inj hsame)

/-- Takes the members of a document. -/
def takeAll (r : Raw) (ms : List (List Char × Json)) : Option Raw :=
  ms.foldlM (fun r (key, v) => r.take key v) r

theorem takeAll_cons (r : Raw) (p : List Char × Json) (ms : List (List Char × Json)) :
    r.takeAll (p :: ms) = (r.take p.1 p.2).bind fun r => r.takeAll ms := rfl

theorem takeAll_append (r : Raw) (ms ms' : List (List Char × Json)) :
    r.takeAll (ms ++ ms') = (r.takeAll ms).bind fun r => r.takeAll ms' := by
  rw [takeAll, List.foldlM_append]
  rfl

/-- Members that are no times leave the time alone. -/
theorem takeAll_timed (m : Moment) : ∀ (r : Raw) {ms : List (List Char × Json)},
    (∀ p ∈ ms, isTime p = false) → (r.timed m).takeAll ms = (r.takeAll ms).map (timed m)
  | r, [], _ => rfl
  | r, p :: ms, h => by
    obtain ⟨hp, hms⟩ := List.forall_mem_cons.mp h
    rw [takeAll_cons, takeAll_cons, take_timed r m hp]
    cases r.take p.1 p.2 with
    | none => rfl
    | some r' => exact takeAll_timed m r' hms

/-- A text that denotes an instant is taken for the time. -/
theorem take_denoting {key t : List Char} {n : Int} (hkey : isTime (key, .string t) = true)
    (h : Denotes t n) :
    ∃ m, m.nanos < 1000000000 ∧ m.seconds * 1000000000 + m.nanos = n ∧
      ∀ r : Raw, r.take key (.string t) = some (r.timed m) := by
  obtain ⟨m, hread, hnanos, hn⟩ := denotes_iff.mp h
  refine ⟨m, hnanos, hn, fun r => ?_⟩
  rw [take_isTime r hkey, timeField, hread]
  rfl

/-- Whatever times stand among the members, only the time is theirs. -/
theorem takeAll_times : ∀ {ms : List (List Char × Json)} (r : Raw) (m : Moment),
    (∀ p ∈ ms, isTime p = true → ∃ t n, p.2 = .string t ∧ Denotes t n) →
    ∃ m', (r.timed m).takeAll ms = (r.takeAll (ms.filter fun p => !isTime p)).map (timed m')
  | [], _, m, _ => ⟨m, rfl⟩
  | p :: ms, r, m, h => by
    obtain ⟨hp, hms⟩ := List.forall_mem_cons.mp h
    rw [takeAll_cons]
    cases htime : isTime p with
    | true =>
      obtain ⟨t, n, hvalue, hdenotes⟩ := hp htime
      have hkey : isTime (p.1, .string t) = true := htime
      obtain ⟨x, -, -, hx⟩ := take_denoting hkey hdenotes
      rw [hvalue, hx, List.filter_cons_of_neg (by simp [htime])]
      exact takeAll_times r x hms
    | false =>
      rw [take_timed r m htime, List.filter_cons_of_pos (by simp [htime]), takeAll_cons]
      cases r.take p.1 p.2 with
      | none => exact ⟨m, rfl⟩
      | some r' => exact takeAll_times r' m hms

/-- **The last time of the members is the time.** -/
theorem takeAll_last (r : Raw) {before after : List (List Char × Json)} {key t : List Char}
    {n : Int} (hkey : isTime (key, .string t) = true) (hn : Denotes t n)
    (hbefore : ∀ p ∈ before, isTime p = true → ∃ t n, p.2 = .string t ∧ Denotes t n)
    (hafter : ∀ p ∈ after, isTime p = false) :
    ∃ m, m.nanos < 1000000000 ∧ m.seconds * 1000000000 + m.nanos = n ∧
      r.takeAll (before ++ (key, .string t) :: after) =
        (r.takeAll ((before ++ after).filter fun p => !isTime p)).map (timed m) := by
  obtain ⟨m', hm'⟩ := takeAll_times r r.envelope.occurredAt hbefore
  rw [timed_self] at hm'
  obtain ⟨m, hnanos, hinstant, htake⟩ := take_denoting hkey hn
  refine ⟨m, hnanos, hinstant, ?_⟩
  have hall : after.filter (fun p => !isTime p) = after :=
    List.filter_eq_self.mpr fun p hp => by simp [hafter p hp]
  rw [takeAll_append, hm', List.filter_append, hall, takeAll_append]
  cases hfront : r.takeAll (before.filter fun p => !isTime p) with
  | none => rfl
  | some r' =>
    show (r'.timed m').takeAll ((key, .string t) :: after) = (r'.takeAll after).map (timed m)
    rw [takeAll_cons, htake]
    exact takeAll_timed m r' hafter

/-! ### Spellings of the same instants -/

/-- Members that are the same, or that are times of one instant. -/
inductive SameInstant : List Char × Json → List Char × Json → Prop
  | same (p : List Char × Json) : SameInstant p p
  | times {key t t' : List Char} {n : Int} : Json.Field.named "occurredAt" key = true →
      Denotes t n → Denotes t' n → SameInstant (key, .string t) (key, .string t')

/-- The fields are the same, and their times are one instant. -/
def Alike (r r' : Raw) : Prop :=
  ∃ m, r' = r.timed m ∧ m.seconds = r.envelope.occurredAt.seconds ∧
    m.nanos = r.envelope.occurredAt.nanos

theorem Alike.refl (r : Raw) : Alike r r := ⟨r.envelope.occurredAt, rfl, rfl, rfl⟩

/-- Both fail, or both give fields that are alike. -/
def AlikeIfAny (o o' : Option Raw) : Prop :=
  (o = none ∧ o' = none) ∨ ∃ r r', o = some r ∧ o' = some r' ∧ Alike r r'

theorem take_sameInstant {r r' : Raw} (hr : Alike r r') {p p' : List Char × Json}
    (h : SameInstant p p') : AlikeIfAny (r.take p.1 p.2) (r'.take p'.1 p'.2) := by
  obtain ⟨m, rfl, hseconds, hnanos⟩ := hr
  cases h with
  | same =>
    cases htime : isTime p with
    | false =>
      rw [take_timed r m htime]
      cases htake : r.take p.1 p.2 with
      | none => exact .inl ⟨rfl, rfl⟩
      | some s =>
        rw [← take_keeps htime htake] at hseconds hnanos
        exact .inr ⟨s, s.timed m, rfl, rfl, m, rfl, hseconds, hnanos⟩
    | true =>
      rw [take_isTime r htime, take_isTime (r.timed m) htime]
      cases p.2 with
      | null => exact .inr ⟨r, r.timed m, rfl, rfl, m, rfl, hseconds, hnanos⟩
      | string t =>
        cases hread : Moment.read? t with
        | none =>
          left
          simp only [timeField, hread, Option.map_none, and_self]
        | some x =>
          right
          refine ⟨r.timed x, r.timed x, ?_, ?_, Alike.refl _⟩
          · simp only [timeField, hread, Option.map_some]
          · simp only [timeField, hread, Option.map_some, timed_timed]
      | bool b => exact .inl ⟨rfl, rfl⟩
      | number n => exact .inl ⟨rfl, rfl⟩
      | array vs => exact .inl ⟨rfl, rfl⟩
      | object ms => exact .inl ⟨rfl, rfl⟩
  | times hkey hn hn' =>
    obtain ⟨x, hx, hinstant, htake⟩ := take_denoting hkey hn
    obtain ⟨x', hx', hinstant', htake'⟩ := take_denoting hkey hn'
    have hsame : x'.seconds = x.seconds ∧ x'.nanos = x.nanos := by omega
    right
    refine ⟨r.timed x, r.timed x', htake r, ?_, x', rfl, hsame⟩
    rw [htake', timed_timed]

theorem takeAll_sameInstant {ms ms' : List (List Char × Json)}
    (h : List.Forall₂ SameInstant ms ms') :
    ∀ {r r' : Raw}, Alike r r' → AlikeIfAny (r.takeAll ms) (r'.takeAll ms') := by
  induction h with
  | nil => exact fun hr => .inr ⟨_, _, rfl, rfl, hr⟩
  | cons hp _ ih =>
    intro r r' hr
    rw [takeAll_cons, takeAll_cons]
    obtain ⟨hnone, hnone'⟩ | ⟨s, s', hs, hs', halike⟩ := take_sameInstant hr hp
    · rw [hnone, hnone']
      exact .inl ⟨rfl, rfl⟩
    · rw [hs, hs']
      exact ih halike

end Envelope.Raw

/-! ### What the line shows -/

namespace Audit

open Envelope (Raw)

/-- What is said of an event with these fields. -/
def described (r : Raw) : Except Envelope.ReadFault (Option String) :=
  if Envelope.isIntentType r.envelope.type then
    match IntentData.ofJson? (r.data.getD .null) with
    | some d => .ok (some (line r.envelope d))
    | none => .error (.badData r.envelope.type)
  else .ok none

theorem describe_object {message : List UInt8} {ms : List (List Char × Json)}
    (h : Json.parse? (Text.Utf8.decode message) = some (.object ms)) :
    describe message =
      match (⟨Envelope.blank, none⟩ : Raw).takeAll ms with
      | none => .error .badEnvelope
      | some r => described r := by
  have hread : Json.Field.read Raw.take ⟨Envelope.blank, none⟩ (.object ms) =
      (⟨Envelope.blank, none⟩ : Raw).takeAll ms := rfl
  simp only [describe, Envelope.read, h, Envelope.ofJson, hread]
  cases (⟨Envelope.blank, none⟩ : Raw).takeAll ms with
  | none => rfl
  | some r =>
    by_cases htype : Envelope.isIntentType r.envelope.type = true
    · simp only [described, htype, ↓reduceIte]
      cases IntentData.ofJson? (r.data.getD .null) with
      | none => rfl
      | some d => rfl
    · simp only [described, htype, Bool.false_eq_true, ↓reduceIte]
      rfl

/-- The end of a line: the time, unless it was not set. -/
def timeText (m : Moment) : String := if m.isZero then "" else " at=" ++ m.utcMillis

/-- A line ends with its time. -/
theorem line_timed (e : Envelope) (d : IntentData) (m : Moment) :
    line { e with occurredAt := m } d = line { e with occurredAt := .zero } d ++ timeText m := by
  have hzero : Moment.isZero Moment.zero = true := rfl
  simp only [line, timeText, hzero, ↓reduceIte, String.append_empty]

theorem described_timed (r : Raw) (m : Moment) :
    described (r.timed m) = (described (r.timed .zero)).map (Option.map (· ++ timeText m)) := by
  by_cases htype : Envelope.isIntentType r.envelope.type = true
  · simp only [described, Raw.timed, htype, ↓reduceIte]
    cases IntentData.ofJson? (r.data.getD .null) with
    | none => rfl
    | some d =>
      simp only [line_timed r.envelope d m]
      rfl
  · simp only [described, Raw.timed, htype, Bool.false_eq_true, ↓reduceIte]
    rfl

theorem described_alike {r r' : Raw} (h : Raw.Alike r r') : described r = described r' := by
  obtain ⟨m, rfl, hseconds, hnanos⟩ := h
  have htime : timeText m = timeText r.envelope.occurredAt := by
    have hzero : m.isZero = r.envelope.occurredAt.isZero := by
      rw [Moment.isZero, Moment.isZero, hseconds, hnanos]
    have hmillis : m.utcMillis = r.envelope.occurredAt.utcMillis := by
      rw [Moment.utcMillis, Moment.utcMillis, hseconds, hnanos]
    rw [timeText, timeText, hzero, hmillis]
  rw [described_timed r m, htime, ← described_timed, Raw.timed_self]

/-- **Messages whose times spell the same instants have the same line.** -/
theorem describe_sameInstant {message message' : List UInt8} {ms ms' : List (List Char × Json)}
    (h : Json.parse? (Text.Utf8.decode message) = some (.object ms))
    (h' : Json.parse? (Text.Utf8.decode message') = some (.object ms'))
    (hms : List.Forall₂ Raw.SameInstant ms ms') : describe message = describe message' := by
  rw [describe_object h, describe_object h']
  obtain ⟨hnone, hnone'⟩ | ⟨r, r', hr, hr', halike⟩ :=
    Raw.takeAll_sameInstant hms (Raw.Alike.refl ⟨Envelope.blank, none⟩)
  · rw [hnone, hnone']
  · rw [hr, hr']
    exact described_alike halike

/-- **The line of an event is its line without a time, and the time.** Its time is the last of the
message, of the instant that this one denotes; `bare` is the message without its times. -/
theorem describe_timed {message bare : List UInt8} {before after : List (List Char × Json)}
    {key t : List Char} {n : Int}
    (h : Json.parse? (Text.Utf8.decode message) =
      some (.object (before ++ (key, .string t) :: after)))
    (hbare : Json.parse? (Text.Utf8.decode bare) =
      some (.object ((before ++ after).filter fun p => !Raw.isTime p)))
    (hkey : Raw.isTime (key, .string t) = true) (hn : Denotes t n)
    (hbefore : ∀ p ∈ before, Raw.isTime p = true → ∃ t n, p.2 = .string t ∧ Denotes t n)
    (hafter : ∀ p ∈ after, Raw.isTime p = false) :
    ∃ m : Moment, m.nanos < 1000000000 ∧ m.seconds * 1000000000 + m.nanos = n ∧
      describe message = (describe bare).map (Option.map (· ++ timeText m)) := by
  obtain ⟨m, hnanos, hinstant, htake⟩ :=
    Raw.takeAll_last ⟨Envelope.blank, none⟩ hkey hn hbefore hafter
  refine ⟨m, hnanos, hinstant, ?_⟩
  -- without times, the time of the message is the one it starts with
  have hfiltered : ∀ p ∈ (before ++ after).filter fun p => !Raw.isTime p,
      Raw.isTime p = false := by
    intro p hp
    simpa using (List.mem_filter.mp hp).2
  have hzero := Raw.takeAll_timed .zero ⟨Envelope.blank, none⟩ hfiltered
  rw [describe_object h, htake, describe_object hbare]
  cases hfields : (⟨Envelope.blank, none⟩ : Raw).takeAll
      ((before ++ after).filter fun p => !Raw.isTime p) with
  | none => rfl
  | some r =>
    have hself : r.timed .zero = r := by
      have hsame : some r = some (r.timed .zero) := by
        rw [← Option.map_some, ← hfields]
        exact hzero
      exact (Option.some.inj hsame).symm
    rw [Option.map_some]
    simp only [described_timed r m, hself]

/-! ### The instant in writing -/

/-- A day and the milliseconds that have passed of it, in writing. -/
def millisText (d : Date) (ms : Nat) : String :=
  String.ofList (Digits.padded 4 d.year.toNat ++ '-' :: (Digits.padded 2 d.month ++ '-' ::
    (Digits.padded 2 d.day ++ 'T' :: (Digits.padded 2 (ms / 3600000) ++ ':' ::
      (Digits.padded 2 (ms / 60000 % 60) ++ ':' :: (Digits.padded 2 (ms / 1000 % 60) ++ '.' ::
        (Digits.padded 3 (ms % 1000) ++ ['Z'])))))))

/-- The nanoseconds of a day. -/
def dayNanos : Int := 86400000000000

/-- The end of a line for an instant on the day `d`: nothing at the start of the year 1. -/
def clause (d : Date) (n : Int) : String :=
  if d = ⟨1, 1, 1⟩ ∧ n % dayNanos = 0 then ""
  else " at=" ++ millisText d ((n % dayNanos).toNat / 1000000)

section Instant

variable {m : Moment} {n : Int} {d : Date}

theorem isZero_iff (hnanos : m.nanos < 1000000000) (hn : m.seconds * 1000000000 + m.nanos = n)
    (hd : Date.Counts (n / dayNanos) d) :
    m.isZero = true ↔ d = ⟨1, 1, 1⟩ ∧ n % dayNanos = 0 := by
  have hzero : Moment.zero.seconds = -62135596800 := rfl
  have hepoch : Civil.epochDays = 719528 := rfl
  have hyearOne : (⟨1, 1, 1⟩ : Date).toDays = 366 := rfl
  obtain ⟨hvalid, hdays⟩ := hd.toDays_eq
  simp only [Moment.isZero, Bool.and_eq_true, decide_eq_true_eq, dayNanos, hzero] at hdays ⊢
  constructor
  · rintro ⟨hs, hk⟩
    refine ⟨Date.toDays_injective hvalid rfl ?_, by omega⟩
    rw [hyearOne, hdays, hepoch]
    omega
  · rintro ⟨hsame, hstart⟩
    rw [hsame, hyearOne, hepoch] at hdays
    omega

theorem utcMillis_eq (hnanos : m.nanos < 1000000000)
    (hn : m.seconds * 1000000000 + m.nanos = n) (hd : Date.Counts (n / dayNanos) d)
    (hyear : 0 ≤ d.year) : m.utcMillis = millisText d ((n % dayNanos).toNat / 1000000) := by
  obtain ⟨hvalid, hdays⟩ := hd.toDays_eq
  have hday : n / dayNanos = m.seconds / 86400 := by
    unfold dayNanos
    omega
  have hdate : (Civil.ofSeconds m.seconds).date = d := by
    rw [hday] at hdays
    exact (Date.eq_ofDays hvalid hdays).symm
  have hmillis : (n % dayNanos).toNat / 1000000 =
      (m.seconds % 86400).toNat * 1000 + m.nanos / 1000000 := by
    unfold dayNanos
    omega
  have hk : m.nanos / 1000000 < 1000 := by omega
  have hyearText : Civil.yearText d.year = Digits.padded 4 d.year.toNat := by
    rw [Civil.yearText, if_neg (by omega)]
    congr 1
    omega
  rw [Moment.utcMillis, Civil.text, hdate, hyearText, millisText, hmillis]
  simp only [Civil.ofSeconds]
  generalize (m.seconds % 86400).toNat = o
  generalize m.nanos / 1000000 = k at hk
  have hhour : (o * 1000 + k) / 3600000 = o / 3600 := by omega
  have hminute : (o * 1000 + k) / 60000 % 60 = o % 3600 / 60 := by omega
  have hsecond : (o * 1000 + k) / 1000 % 60 = o % 60 := by omega
  have hmilli : (o * 1000 + k) % 1000 = k := by omega
  rw [hhour, hminute, hsecond, hmilli]
  simp only [List.append_assoc, List.cons_append]

/-- **What is shown of a moment is its day, counted day by day, and its whole milliseconds.** -/
theorem timeText_eq (hnanos : m.nanos < 1000000000) (hn : m.seconds * 1000000000 + m.nanos = n)
    (hd : Date.Counts (n / dayNanos) d) (hyear : 0 ≤ d.year) : timeText m = clause d n := by
  have hzero := isZero_iff hnanos hn hd
  unfold timeText clause
  by_cases h : m.isZero = true
  · rw [if_pos h, if_pos (hzero.mp h)]
  · rw [if_neg h, if_neg (mt hzero.mpr h), utcMillis_eq hnanos hn hd hyear]

end Instant

/-- **The time in the audit line denotes the instant, not its spelling.** The times that are read
are those that denote an instant. Messages whose times are other spellings of the same instants
are described alike. And a message is described as it would be without a time, followed, unless
the instant is the start of the year 1, by the date of the instant's day in universal time,
counted day by day, and by the time of day, cut to whole milliseconds. -/
theorem line_shows_instant :
    (∀ t, (Moment.read? t).isSome = true ↔ ∃ n, Denotes t n) ∧
    (∀ message message' ms ms',
      Json.parse? (Text.Utf8.decode message) = some (.object ms) →
      Json.parse? (Text.Utf8.decode message') = some (.object ms') →
      List.Forall₂ Raw.SameInstant ms ms' → describe message = describe message') ∧
    ∀ message bare before key t after n d,
      Json.parse? (Text.Utf8.decode message) =
        some (.object (before ++ (key, .string t) :: after)) →
      Json.parse? (Text.Utf8.decode bare) =
        some (.object ((before ++ after).filter fun p => !Raw.isTime p)) →
      Raw.isTime (key, .string t) = true → Denotes t n →
      (∀ p ∈ before, Raw.isTime p = true → ∃ t n, p.2 = .string t ∧ Denotes t n) →
      (∀ p ∈ after, Raw.isTime p = false) →
      Date.Counts (n / dayNanos) d → 0 ≤ d.year →
      describe message = (describe bare).map (Option.map (· ++ clause d n)) := by
  refine ⟨fun t => ?_, fun _ _ _ _ => describe_sameInstant, ?_⟩
  · rw [Option.isSome_iff_exists]
    constructor
    · rintro ⟨m, hread⟩
      obtain ⟨s, hs, htext, -⟩ := Moment.exists_stamp hread
      exact ⟨_, denotes_iff.mpr ⟨s.moment, htext ▸ Moment.read?_stamp hs,
        Stamp.nanos_lt hs.fraction, rfl⟩⟩
    · rintro ⟨n, hn⟩
      obtain ⟨m, hread, -⟩ := denotes_iff.mp hn
      exact ⟨m, hread⟩
  · intro message bare before key t after n d h hbare hkey hn hbefore hafter hd hyear
    obtain ⟨m, hnanos, hinstant, hdescribe⟩ := describe_timed h hbare hkey hn hbefore hafter
    rw [hdescribe, timeText_eq hnanos hinstant hd hyear]

/-- The members of a creation with these times. -/
def created (times : List (String × Json)) : Json :=
  Json.ofMembers ([("eventType", Json.ofText "PaymentIntentCreated")] ++ times ++
    [("data", Json.ofMembers [("intentId", Json.ofText "pi")])])

/-- An hour west of universal time the leap day is not over; there it is the first of March. The
same instant an hour to the east, its fraction longer, after a comma, has the same line, which
does not round. -/
theorem line_shows_instant_leapDay :
    let message := Text.Utf8.bytes
      (created [("occurredAt", .string "2024-02-29T23:30:00.1239-01:00".toList)]).render
    let message' := Text.Utf8.bytes
      (created [("occurredAt", .string "2024-03-01T1:30:00,12390+01:00".toList)]).render
    describe message = describe message' ∧ describe message =
      .ok (some "PaymentIntentCreated intent=pi status= state= at=2024-03-01T00:30:00.123Z") := by
  intro message message'
  have hparse (times : List (String × Json)) (h : (created times).fits Json.maxDepth = true) :
      Json.parse? (Text.Utf8.decode (Text.Utf8.bytes (created times).render)) =
        some (created times) := by
    rw [Text.Utf8.bytes, Text.Utf8.decode_encode, Json.render, String.toList_ofList,
      Json.parse?_write h]
  have hmessage := hparse _ (show (created [("occurredAt", .string
    "2024-02-29T23:30:00.1239-01:00".toList)]).fits Json.maxDepth = true by decide +kernel)
  have hmessage' := hparse _ (show (created [("occurredAt", .string
    "2024-03-01T1:30:00,12390+01:00".toList)]).fits Json.maxDepth = true by decide +kernel)
  have hbare := hparse [] (by decide +kernel)
  have hn : Denotes "2024-02-29T23:30:00.1239-01:00".toList 1709253000123900000 :=
    denotes_iff.mpr ⟨⟨1709253000, 123900000, -3600⟩, by decide +kernel, by decide, by decide⟩
  have hn' : Denotes "2024-03-01T1:30:00,12390+01:00".toList 1709253000123900000 :=
    denotes_iff.mpr ⟨⟨1709253000, 123900000, 3600⟩, by decide +kernel, by decide, by decide⟩
  have hday : Date.Counts (1709253000123900000 / dayNanos) ⟨2024, 3, 1⟩ :=
    Date.counts_iff.mpr ⟨rfl, rfl⟩
  have hdescribe : describe (Text.Utf8.bytes (created []).render) =
      .ok (some "PaymentIntentCreated intent=pi status= state=") := by
    rw [describe_object hbare]
    rfl
  have hclause : clause ⟨2024, 3, 1⟩ 1709253000123900000 = " at=2024-03-01T00:30:00.123Z" := by
    decide +kernel
  have htime : Raw.isTime (Json.Spelling.ofText "occurredAt", .null) = true := by decide +kernel
  have htype (v : Json) : Raw.isTime (Json.Spelling.ofText "eventType", v) = false := by
    have hnamed : Json.Field.named "occurredAt" (Json.Spelling.ofText "eventType") = false := by
      decide +kernel
    exact hnamed
  have hdata (v : Json) : Raw.isTime (Json.Spelling.ofText "data", v) = false := by
    have hnamed : Json.Field.named "occurredAt" (Json.Spelling.ofText "data") = false := by
      decide +kernel
    exact hnamed
  obtain ⟨-, halike, hshown⟩ := line_shows_instant
  constructor
  · exact halike _ _ _ _ hmessage hmessage'
      (.cons (.same _) (.cons (.times htime hn hn') (.cons (.same _) .nil)))
  · have hline := hshown _ _
      [(Json.Spelling.ofText "eventType", Json.ofText "PaymentIntentCreated")] _ _
      [(Json.Spelling.ofText "data", Json.ofMembers [("intentId", Json.ofText "pi")])] _ _
      hmessage hbare htime hn (by simp [htype]) (by simp [hdata]) hday (by decide)
    rw [hline, hdescribe, hclause]
    rfl

end Audit
end PaymentGateway
