/-
# The audit trail is complete and exact

The events that a session publishes are written to a topic and read by the audit
worker, among messages that are no events at all and events of other types. The
worker does not stop before its reader fails (`loop_messages`), and its log is the
trail of the session (`reports_trail`): an entry for each success, in order, that says
what the caller was told, one complaint for each message that is no event, and
nothing for an event of another type.

Key definitions: `Audit.entry`, `Audit.complaint`, `Audit.Item`,
`Audit.Item.Sound`, `Audit.trail`.
Key theorems: `Audit.loop_messages`, `Audit.report?_event`, `Audit.reports_trail`,
`Audit.trail_complete`.
-/
import PaymentGateway.Event.Audit
import PaymentGateway.Proofs.Event.RoundTrip
import PaymentGateway.Proofs.Handshake.Publication

namespace PaymentGateway

/-- A text whose last part does not end with a newline is its own entry. -/
theorem Log.line_append (s : String) {t : String} {c : Char} (ht : t.toList.getLast? = some c)
    (hc : c ≠ '\n') : Log.line (s ++ t) = s ++ t := by
  obtain ⟨cs, hcs⟩ := List.getLast?_eq_some_iff.mp ht
  have hlast : (s ++ t).toList.reverse = c :: (s.toList ++ cs).reverse := by
    rw [String.toList_append, hcs, ← List.append_assoc, List.reverse_append]
    rfl
  rw [Log.line, hlast]
  split
  · next h => exact absurd (List.cons.inj h).1 hc
  · rfl

namespace Audit

open Handshake (Success Session Round Step)

/-! ### The loop of the worker -/

/-- What is logged for a list of messages. -/
def reports (ms : List Message) : List String := ms.filterMap fun m => (report? m).map Log.line

theorem reports_cons (m : Message) (ms : List Message) :
    reports (m :: ms) = ((report? m).map Log.line).toList ++ reports ms := by
  cases hr : report? m <;> simp [reports, hr]

/-- **The worker reads on after every message**: what it logs and how it ends is
what the messages give, and then what the reads after them give. -/
theorem loop_messages (at? : Option Nat) : ∀ (ms : List Message) (n : Nat)
    (reads : List (Except Fault Message)),
    loop at? n (ms.map .ok ++ reads) =
      (reports ms ++ (loop at? (n + ms.length) reads).1, (loop at? (n + ms.length) reads).2)
  | [], _, _ => rfl
  | m :: ms, n, reads => by
    have ih := loop_messages at? ms (n + 1) reads
    have hlength : n + 1 + ms.length = n + (m :: ms).length := by
      rw [List.length_cons]
      omega
    rw [List.map_cons, List.cons_append, loop, ih, reports_cons, List.append_assoc, hlength]

/-- The fault the worker ends with when read number `n` meets `last`. -/
def ending (last : Fault) (at? : Option Nat) (n : Nat) : Option Fault :=
  if canceledBy at? n || last.isCanceled then none else some (.wrapped "read message: " last "")

theorem consume_eq (ms : List Message) (last : Fault) (at? : Option Nat) :
    consume ms last at? = (reports ms, ending last at? ms.length) := by
  rw [consume, loop_messages]
  simp [loop, ending]

/-- However many of the messages were read, the worker waits for the next. -/
theorem loop_waits (ms : List Message) (at? : Option Nat) : (loop at? 0 (ms.map .ok)).2 = none := by
  have h := loop_messages at? ms 0 []
  rw [List.append_nil] at h
  rw [h]
  rfl

/-! ### Entries -/

/-- The entry of a success whose event was written at a time: its type, the id of
the intent, the status that the caller was told and the state it stands for;
for a confirmation also whether the customer has to act and how the attach went. -/
def entry (x : Success) (time : Moment) : String :=
  match x with
  | .created id status =>
    Envelope.createdType ++ " intent=" ++ id ++ " status=" ++ status ++ " state=" ++
      (IntentState.ofStatus status).text ++ " at=" ++ time.utcMillis
  | .confirmed id status requiresAction attach =>
    Envelope.confirmedType ++ " intent=" ++ id ++ " status=" ++ status ++ " state=" ++
      (IntentState.ofStatus status).text ++ " requires_action=" ++ yesNo requiresAction ++
      " attach=" ++ attach.text ++ " at=" ++ time.utcMillis

/-- The complaint about a message that is no event. -/
def complaint (m : Message) (why : Envelope.ReadFault) : String :=
  "bad event at " ++ m.topic ++ "/" ++ Digits.text m.partition ++ "@" ++ Digits.text m.offset ++
    ": " ++ why.text

theorem stamped_ofIntent (type : String) (d : IntentData) (time : Moment) :
    (Envelope.ofIntent type d).stamped time =
      { Envelope.ofIntent type d with occurredAt := time } := rfl

/-- The line of an event says what its entry says. -/
theorem line_event (x : Success) {time : Moment} (hset : time.isZero = false) :
    line ((Envelope.ofIntent x.type x.data).stamped time) x.data = entry x time := by
  rw [stamped_ofIntent]
  cases x with
  | created id status =>
    have htype : Envelope.createdType ≠ Envelope.confirmedType := by decide
    simp [line, entry, Success.type, Success.data, Envelope.ofIntent, htype, hset,
      String.append_assoc]
  | confirmed id status requiresAction attach =>
    have hattach : attach.text ≠ "" := by cases attach <;> decide
    simp [line, entry, Success.type, Success.data, Envelope.ofIntent, hattach, hset,
      String.append_assoc]

theorem line_entry (x : Success) (time : Moment) : Log.line (entry x time) = entry x time := by
  have hlast : time.utcMillis.toList.getLast? = some 'Z' := by
    rw [Moment.utcMillis, String.toList_ofList, List.getLast?_append, List.getLast?_cons,
      List.getLast?_append]
    rfl
  cases x with
  | created id status => exact Log.line_append _ hlast (by decide)
  | confirmed id status requiresAction attach => exact Log.line_append _ hlast (by decide)

theorem line_complaint (m : Message) (why : Envelope.ReadFault) :
    Log.line (complaint m why) = complaint m why := by
  have henvelope : "decode envelope".toList.getLast? = some 'e' := by decide
  have hdata : " data".toList.getLast? = some 'a' := by decide
  unfold complaint Envelope.ReadFault.text
  cases why with
  | notJson => exact Log.line_append _ henvelope (by decide)
  | badEnvelope => exact Log.line_append _ henvelope (by decide)
  | badData type =>
    simp only
    rw [← String.append_assoc]
    exact Log.line_append _ hdata (by decide)

theorem head?_append {s : String} {c : Char} (h : s.toList.head? = some c) (t : String) :
    (s ++ t).toList.head? = some c := by
  rw [String.toList_append, List.head?_append, h, Option.some_or]

/-- No entry of a success is a complaint: they differ in the first character. -/
theorem entry_ne_complaint (x : Success) (time : Moment) (m : Message) (why : Envelope.ReadFault) :
    entry x time ≠ complaint m why := by
  have hcreated : Envelope.createdType.toList.head? = some 'P' := by decide
  have hconfirmed : Envelope.confirmedType.toList.head? = some 'P' := by decide
  have hbad : "bad event at ".toList.head? = some 'b' := by decide
  have hentry : (entry x time).toList.head? = some 'P' := by
    cases x with
    | created id status =>
      unfold entry
      iterate 8 apply head?_append
      exact hcreated
    | confirmed id status requiresAction attach =>
      unfold entry
      iterate 12 apply head?_append
      exact hconfirmed
  have hcomplaint : (complaint m why).toList.head? = some 'b' := by
    unfold complaint
    iterate 7 apply head?_append
    exact hbad
  intro h
  rw [h, hcomplaint] at hentry
  exact absurd hentry (by decide)

/-! ### The stream of messages -/

/-- The bytes of an event that is written at a time; none if it has no text. -/
def encoded (e : Envelope) (now : Moment) : List UInt8 :=
  match e.write now with
  | .ok text => Text.Utf8.bytes text
  | .error _ => []

/-- A message of the topic: an event that was written at a time, a message that
is no event and why, or an event of another type. -/
inductive Item where
  | event (topic : String) (partition offset : Int) (e : Envelope) (time : Moment)
  | malformed (m : Message) (why : Envelope.ReadFault)
  | unrelated (m : Message)

namespace Item

/-- The message as it is read. -/
def message : Item → Message
  | event topic partition offset e time => ⟨topic, partition, offset, encoded e time⟩
  | malformed m _ => m
  | unrelated m => m

/-- The event that was written, if it is one. -/
def event? : Item → Option Envelope
  | event _ _ _ e _ => some e
  | _ => none

/-- **The item is what it says.** Events are written at times that are set, in
universal time and with a year of four digits. -/
def Sound : Item → Prop
  | event _ _ _ _ time => time.isZero = false ∧ time.Sendable
  | malformed m why => ∃ e, Envelope.read m.value = .error (why, e)
  | unrelated m => ∃ e, Envelope.read m.value = .ok (e, none)

end Item

/-- **The trail of a stream**, given the successes whose events are in it: each
event has the entry of the next success, each malformed message a complaint. -/
def trail : List Item → List Success → List String
  | [], _ => []
  | .event _ _ _ _ time :: items, x :: xs => entry x time :: trail items xs
  | .event _ _ _ _ _ :: items, [] => trail items []
  | .malformed m why :: items, xs => complaint m why :: trail items xs
  | .unrelated _ :: items, xs => trail items xs

theorem describe_of_read {message : List UInt8} {e : Envelope} {data : Option IntentData}
    (h : Envelope.read message = .ok (e, data)) : describe message = .ok (data.map (line e)) := by
  unfold describe
  rw [h]

theorem encoded_of_write {e : Envelope} {now : Moment} {text : String}
    (h : e.write now = .ok text) : encoded e now = Text.Utf8.bytes text := by
  unfold encoded
  rw [h]

/-- **The event of a success is described by the entry of the success.** -/
theorem describe_event (x : Success) {time : Moment} (hset : time.isZero = false)
    (htime : time.Sendable) :
    describe (encoded x.publication.envelope time) = .ok (some (entry x time)) := by
  have htype : Envelope.isIntentType x.type = true := by cases x <;> rfl
  have hstamped : ((Envelope.ofIntent x.type x.data).stamped time).occurredAt.Sendable := by
    rw [stamped_ofIntent]
    exact htime
  obtain ⟨text, hwrite, hread⟩ := Envelope.read_write htype rfl hstamped
  show describe (encoded (.ofIntent x.type x.data) time) = _
  rw [encoded_of_write hwrite, describe_of_read hread, Option.map_some, line_event x hset]

section Report

variable {m : Message}

theorem report?_event (x : Success) {time : Moment} (hset : time.isZero = false)
    (htime : time.Sendable) (hm : m.value = encoded x.publication.envelope time) :
    report? m = some (entry x time) := by
  unfold report?
  rw [hm, describe_event x hset htime]

theorem report?_malformed {why : Envelope.ReadFault} {e : Envelope}
    (h : Envelope.read m.value = .error (why, e)) : report? m = some (complaint m why) := by
  have hdescribe : describe m.value = .error why := by
    unfold describe
    rw [h]
  unfold report?
  rw [hdescribe]
  rfl

theorem report?_unrelated {e : Envelope} (h : Envelope.read m.value = .ok (e, none)) :
    report? m = none := by
  unfold report?
  rw [describe_of_read h]
  rfl

end Report

/-- **What is logged for a stream is its trail**, when its events are those of the
successes, in order. The induction is on the stream: an event takes the next
success, the other messages none. -/
theorem reports_trail : ∀ (items : List Item) (xs : List Success), (∀ i ∈ items, i.Sound) →
    items.filterMap Item.event? = xs.map (·.publication.envelope) →
    reports (items.map Item.message) = trail items xs
  | [], _, _, _ => rfl
  | .event topic partition offset e time :: items, [], _, hfeed => by simp [Item.event?] at hfeed
  | .event topic partition offset e time :: items, x :: xs, hsound, hfeed => by
    simp only [List.filterMap_cons, Item.event?, List.map_cons, List.cons.injEq] at hfeed
    obtain ⟨rfl, hrest⟩ := hfeed
    obtain ⟨⟨hset, htime⟩, hsounds⟩ := List.forall_mem_cons.mp hsound
    rw [List.map_cons, reports_cons, report?_event x hset htime rfl,
      reports_trail items xs hsounds hrest, Option.map_some, line_entry]
    rfl
  | .malformed m why :: items, xs, hsound, hfeed => by
    obtain ⟨⟨e, hread⟩, hsounds⟩ := List.forall_mem_cons.mp hsound
    have hreport : report? (Item.malformed m why).message = some (complaint m why) :=
      report?_malformed hread
    rw [List.filterMap_cons_none rfl] at hfeed
    rw [List.map_cons, reports_cons, hreport, reports_trail items xs hsounds hfeed, Option.map_some,
      line_complaint]
    rfl
  | .unrelated m :: items, xs, hsound, hfeed => by
    obtain ⟨⟨e, hread⟩, hsounds⟩ := List.forall_mem_cons.mp hsound
    have hreport : report? (Item.unrelated m).message = none := report?_unrelated hread
    rw [List.filterMap_cons_none rfl] at hfeed
    rw [List.map_cons, reports_cons, hreport, reports_trail items xs hsounds hfeed]
    rfl

/-- **The audit trail of a session is complete and exact**, for any provider, any
rounds and any registry to start with. When the events that the session publishes
are written in order, each at a time that is set, with messages that are no events
and events of other types anywhere between them, then the worker waits for the
next message after each of them, ends as its reader does, and logs the trail of
the session: one entry for each success, which is no complaint, and one complaint
for each message that is no event. -/
theorem trail_complete {σ : Type} (p : Provider σ) (start : Session σ) (rounds : List (Round σ))
    (items : List Item) (hsound : ∀ i ∈ items, i.Sound)
    (hfeed : items.filterMap Item.event? = (start.published p rounds).map (·.envelope))
    (last : Fault) (at? : Option Nat) :
    (∀ n, (loop at? 0 (((items.map Item.message).take n).map .ok)).2 = none) ∧
    consume (items.map Item.message) last at? =
      (trail items (start.successes p rounds), ending last at? items.length) ∧
    (items.filterMap Item.event?).length = (start.successes p rounds).length ∧
    (start.successes p rounds).length = (start.play p rounds).countP Step.succeeds ∧
    ∀ x time m why, entry x time ≠ complaint m why := by
  rw [Handshake.play_events, List.map_map] at hfeed
  refine ⟨fun n => loop_waits _ at?, ?_, ?_, Handshake.play_successes_length p rounds start,
    entry_ne_complaint⟩
  · rw [consume_eq, reports_trail items _ hsound hfeed, List.length_map]
  · rw [hfeed, List.length_map]

/-- A creation, a confirmation that fails and one that asks the customer to act,
with a message that is no event and one of another type between their events. -/
theorem trail_complete_interleaved :
    let quiet : Handshake.Publish := fun _ => none
    let reply (status : String) : Except Fault Intent := .ok ⟨"pi_\"1\"", "s1", status, none⟩
    let start : Session Script := ⟨.new 1 1000, ⟨.error .canceled, .error .canceled, none⟩⟩
    let rounds : List (Round Script) :=
      [⟨fun _ => ⟨reply "requires_payment_method", .error .canceled, none⟩,
          .create quiet ⟨.finite false 10 0, "usd", ""⟩⟩,
        ⟨fun _ => ⟨.error .canceled, .error .canceled, none⟩, .confirm quiet ⟨"s1", ""⟩⟩,
        ⟨fun _ => ⟨.error .canceled, reply "requires_action", some .alreadyAttached⟩,
          .confirm quiet ⟨"s1", "pm_1"⟩⟩]
    let items : List Item :=
      [.malformed ⟨"payments", 0, 7, [0x7B]⟩ .notJson,
        .event "payments" 0 8
          (Success.created "pi_\"1\"" "requires_payment_method").publication.envelope
          ⟨951782400, 120999999, 0⟩,
        .unrelated ⟨"payments", 0, 9, [0x7B, 0x7D]⟩,
        .event "payments" 0 10
          (Success.confirmed "pi_\"1\"" "requires_action" true .alreadyAttached).publication.envelope
          ⟨951782401, 0, 0⟩]
    items.filterMap Item.event? = (start.published Script.provider rounds).map (·.envelope) ∧
    (start.play Script.provider rounds).map Step.succeeds = [true, false, true] ∧
    consume (items.map Item.message) .canceled none =
      (["bad event at payments/0@7: decode envelope",
        "PaymentIntentCreated intent=pi_\"1\" status=requires_payment_method state=pending " ++
          "at=2000-02-29T00:00:00.120Z",
        "PaymentIntentConfirmed intent=pi_\"1\" status=requires_action state=action_required " ++
          "requires_action=true attach=already_attached at=2000-02-29T00:00:01.000Z"], none) := by
  intro quiet reply start rounds items
  have hsuccesses : start.successes Script.provider rounds =
      [.created "pi_\"1\"" "requires_payment_method",
        .confirmed "pi_\"1\"" "requires_action" true .alreadyAttached] := by decide +kernel
  have hsound : ∀ i ∈ items, i.Sound := by
    simp only [items, List.forall_mem_cons, List.not_mem_nil, false_implies, implies_true, and_true,
      Item.Sound]
    exact ⟨⟨_, rfl⟩, ⟨by decide, rfl, by decide, by decide⟩, ⟨_, rfl⟩, by decide, rfl, by decide,
      by decide⟩
  have hfeed : items.filterMap Item.event? =
      (start.published Script.provider rounds).map (·.envelope) := by
    rw [Handshake.play_events, hsuccesses]
    rfl
  obtain ⟨-, hlog, -⟩ :=
    trail_complete Script.provider start rounds items hsound hfeed .canceled none
  rw [hlog, hsuccesses]
  exact ⟨hfeed, by decide +kernel, Prod.ext (by decide +kernel) rfl⟩

end Audit
end PaymentGateway
