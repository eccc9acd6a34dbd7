/-
# A publisher that fails harms nothing

An operation that succeeds hands one event to the publisher, and one that fails
hands it none (`step_once`). The event is about the id that the operation put on
record and says what its caller was told (`Step.Announces`). What the publisher
answers is of no account: a fault of the publisher makes one more line in the log,
the last one of its operation, and that is all (`step_log`, `step_muted`). So two
sessions whose publishers answer differently go on side by side, with the same
results, calls, spans, events and registries, and with the same log lines but for
those that complain about the publisher (`publishing_harms_nothing`).

The complaints can be told from all other lines by how they begin. Muting a trace
takes them out; each operation is, when muted, the same for all publishers
(`create_muted`, `confirm_muted`).

Key definitions: `Log.isComplaint`, `Trace.muted`, `Handshake.complaints`,
`Handshake.Step.Announces`, `Handshake.Step.muted`, `Handshake.Round.unheard`.
Key theorems: `Handshake.step_once`, `Handshake.step_log`,
`Handshake.play_muted`, `Handshake.publishing_harms_nothing`.
-/
import PaymentGateway.Proofs.Handshake.Publication

namespace PaymentGateway

/-! ### Complaints in the log -/

namespace Log

/-- A text behind a mark that does not end a line is logged behind that mark. -/
theorem line_behind (mark : String) {c : Char} (hm : mark.toList.getLast? = some c) (hc : c ≠ '\n')
    (s : String) : ∃ rest, line (mark ++ s) = mark ++ rest := by
  unfold line
  rw [String.toList_append, List.reverse_append]
  cases hs : s.toList.reverse with
  | nil =>
    have hmark : mark.toList.reverse.head? = some c := by rw [List.head?_reverse, hm]
    rw [List.nil_append]
    split
    · next rest hrest =>
      rw [hrest, List.head?_cons, Option.some_inj] at hmark
      exact absurd hmark.symm hc
    · exact ⟨s, rfl⟩
  | cons d ds =>
    rw [List.cons_append]
    split
    · next rest hrest =>
      obtain ⟨-, rfl⟩ := List.cons.inj hrest
      refine ⟨String.ofList ds.reverse, ?_⟩
      rw [← String.toList_inj, String.toList_append, String.toList_ofList, String.toList_ofList,
        List.reverse_append, List.reverse_reverse]
    · exact ⟨s, rfl⟩

/-- Whether a line complains about the publisher. -/
def isComplaint (line : String) : Bool := "[events] publish ".toList.isPrefixOf line.toList

theorem isComplaint_events (s : String) : isComplaint (line ("[events] publish " ++ s)) = true := by
  have hlast : "[events] publish ".toList.getLast? = some ' ' := by decide
  obtain ⟨rest, hrest⟩ := line_behind _ hlast (by decide) s
  rw [isComplaint, hrest, String.toList_append, List.isPrefixOf_iff_prefix]
  exact List.prefix_append _ _

/-- The lines of the handshake begin otherwise. -/
theorem isComplaint_handshake (s : String) : isComplaint (line ("[handshake] " ++ s)) = false := by
  have hlast : "[handshake] ".toList.getLast? = some ' ' := by decide
  obtain ⟨rest, hrest⟩ := line_behind _ hlast (by decide) s
  rw [isComplaint, hrest, String.toList_append]
  rfl

end Log

namespace Trace

/-- The trace without the complaints about the publisher. -/
def muted (t : Trace) : Trace := { t with log := t.log.filter fun l => !Log.isComplaint l }

@[simp] theorem muted_append (a b : Trace) : (a ++ b).muted = a.muted ++ b.muted :=
  congrArg (Trace.mk (a.calls ++ b.calls) · (a.events ++ b.events) (a.spans ++ b.spans))
    (List.filter_append a.log b.log)

theorem append_assoc (a b c : Trace) : a ++ b ++ c = a ++ (b ++ c) := by
  show Trace.mk _ _ _ _ = Trace.mk _ _ _ _
  congr 1 <;> exact List.append_assoc _ _ _

/-- The trace complains about nobody. -/
def Content (t : Trace) : Prop := t.muted = t

theorem Content.append {a b : Trace} (ha : a.Content) (hb : b.Content) : (a ++ b).Content := by
  unfold Content at ha hb ⊢
  rw [muted_append, ha, hb]

theorem content_ofLog (s : String) : (ofLog (Log.line ("[handshake] " ++ s))).Content := by
  have hline := Log.isComplaint_handshake s
  simp [Content, muted, ofLog, hline]

end Trace

namespace Handshake

variable {σ : Type}

/-- The complaints that the publisher's answers to some events give rise to. -/
def complaints (publish : Publish) (events : List Publication) : List String :=
  events.filterMap fun e => (publish e.envelope).map fun f =>
    Log.line ("[events] publish " ++ e.envelope.type ++ " for " ++ e.key ++ " failed: " ++ f.text)

/-! ### One operation -/

section Operations

variable (p : Provider σ) (publish publish' : Publish) (r : Registry) (s : σ)

theorem announce_muted (type : String) (data : IntentData) :
    (announce publish type data).muted =
      .ofEvent ⟨data.intentId, .ofIntent type data⟩ := by
  cases hp : publish (.ofIntent type data) with
  | none =>
    simp only [announce, hp]
    rfl
  | some f =>
    have hline := Log.isComplaint_events
      (type ++ " for " ++ data.intentId ++ " failed: " ++ f.text)
    simp only [← String.append_assoc] at hline
    simp only [announce, hp, Trace.muted_append]
    simp [Trace.muted, Trace.ofLog, Trace.ofEvent, Trace.empty, hline]
    rfl

theorem announce_log (type : String) (data : IntentData) :
    (announce publish type data).log =
      complaints publish [⟨data.intentId, .ofIntent type data⟩] := by
  cases hp : publish (.ofIntent type data) with
  | none =>
    simp only [announce, complaints, hp, List.filterMap_cons, List.filterMap_nil, Option.map_none]
    rfl
  | some f =>
    simp only [announce, complaints, hp, List.filterMap_cons, List.filterMap_nil, Option.map_some]
    rfl

theorem failure_content (op : String) (span : Span) (f : Fault) : (failure op span f).Content := by
  have hline := Trace.content_ofLog (op ++ " error: " ++ f.text)
  rw [← String.append_assoc, ← String.append_assoc] at hline
  exact Trace.Content.append rfl hline

theorem attach_content (id method : String) : (attach p s id method).2.2.Content := by
  unfold attach
  split
  · rfl
  · rcases p.attach method id s with ⟨answer, s'⟩
    simp only [attachTrace]
    refine Trace.Content.append rfl ?_
    split
    · next f _ =>
      have hline := Trace.content_ofLog ("attach " ++ method ++ " to intent " ++ id ++
        " failed, proceeding to confirm: " ++ f.text)
      simp only [← String.append_assoc] at hline
      exact hline.append rfl
    · rfl

theorem created_muted (params : CreateParams) (i : Intent) :
    (created publish params i).muted = (created publish' params i).muted := by
  simp only [created, Trace.muted_append, announce_muted]

theorem confirmed_muted (rec : Record) (res : Confirmed) :
    (confirmed publish rec res).muted = (confirmed publish' rec res).muted := by
  simp only [confirmed, Trace.muted_append, announce_muted]

/-- The outcome without the complaints about the publisher. -/
def Outcome.muted {α : Type} (o : Outcome σ α) : Outcome σ α := { o with trace := o.trace.muted }

/-- **A creation is the same for all publishers**, but for its complaints. -/
theorem create_muted (req : CreateRequest) :
    (create p publish r s req).muted = (create p publish' r s req).muted := by
  cases ha : accept req with
  | error f => simp only [create, ha]
  | ok params =>
    rcases hc : p.create params s with ⟨f | i, s'⟩
    · simp only [create, ha, hc]
    · have htrace := created_muted publish publish' params i
      simp only [create, ha, hc, Outcome.muted, Trace.muted_append, htrace]

/-- **A confirmation is the same for all publishers**, but for its complaints. -/
theorem confirm_muted (req : ConfirmRequest) :
    (confirm p publish r s req).muted = (confirm p publish' r s req).muted := by
  rcases hr : resolve r req with ⟨f | rec, r'⟩
  · simp only [confirm, hr]
  · rcases ha : attach p s rec.id (Text.trim req.paymentMethod) with ⟨outcome, s', trace⟩
    rcases hc : p.confirm rec.id (Text.trim req.paymentMethod) s' with ⟨f | i, s''⟩
    · simp only [confirm, hr, confirmRecord, ha, hc]
    · have htrace := confirmed_muted publish publish' rec (confirmedResult rec outcome i)
      simp only [confirm, hr, confirmRecord, ha, hc, Outcome.muted, Trace.muted_append, htrace]

/-- The log of the trace is its own lines, and then the complaints that the
publisher's answers to its events give rise to. -/
def Complains (publish : Publish) (t : Trace) : Prop :=
  t.log = t.muted.log ++ complaints publish t.events

/-- A trace that publishes nothing and complains about nobody. -/
theorem complains_of_content {t : Trace} (ht : t.Content) (hevents : t.events = []) :
    Complains publish t := by
  rw [Complains, ht, hevents]
  exact (List.append_nil _).symm

/-- An event is announced after the other lines of its operation. -/
theorem complains_announce {before : Trace} (hbefore : before.Content)
    (hevents : before.events = []) (type : String) (data : IntentData) (span : Span) :
    Complains publish (before ++ announce publish type data ++ .ofSpan span) := by
  have hspan : (Trace.ofSpan span).Content := rfl
  unfold Complains
  rw [Trace.muted_append, Trace.muted_append, announce_muted, hbefore, hspan]
  simp only [Trace.log_append, Trace.events_append, announce_log, announce_events, hevents,
    Trace.events_ofSpan, List.nil_append, List.append_nil]
  simp [Trace.ofSpan, Trace.ofEvent, Trace.empty]

theorem create_complains (req : CreateRequest) :
    Complains publish (create p publish r s req).trace := by
  cases ha : accept req with
  | error f =>
    simp only [create, ha]
    exact complains_of_content publish rfl rfl
  | ok params =>
    rcases hc : p.create params s with ⟨f | i, s'⟩
    · simp only [create, ha, hc]
      have hcall : (Trace.ofCall (.create params)).Content := rfl
      exact complains_of_content publish (hcall.append (failure_content _ _ _)) rfl
    · have hline := Trace.content_ofLog ("created intent " ++ i.id ++ " status=" ++ i.status)
      simp only [← String.append_assoc] at hline
      simp only [create, ha, hc, created, ← Trace.append_assoc]
      have hcall : (Trace.ofCall (.create params)).Content := rfl
      exact complains_announce publish (hcall.append hline) rfl _ _ _

theorem confirm_complains (req : ConfirmRequest) :
    Complains publish (confirm p publish r s req).trace := by
  rcases hr : resolve r req with ⟨f | rec, r'⟩
  · simp only [confirm, hr]
    exact complains_of_content publish rfl rfl
  have hattach := attach_content p s rec.id (Text.trim req.paymentMethod)
  have hsilent := attach_events (p := p) (s := s) rec.id (Text.trim req.paymentMethod)
  rcases ha : attach p s rec.id (Text.trim req.paymentMethod) with ⟨outcome, s', trace⟩
  simp only [ha] at hattach hsilent
  have hasked : (trace ++ .ofCall (.confirm rec.id (Text.trim req.paymentMethod))).Content :=
    .append hattach rfl
  rcases hc : p.confirm rec.id (Text.trim req.paymentMethod) s' with ⟨f | i, s''⟩
  · simp only [confirm, hr, confirmRecord, ha, hc]
    refine complains_of_content publish (hasked.append (failure_content _ _ _)) ?_
    simp only [Trace.events_append, hsilent, Trace.events_ofCall, failure_events, List.append_nil]
  · set res := confirmedResult rec outcome i
    have hline := Trace.content_ofLog ("confirmed intent " ++ rec.id ++ " status=" ++ res.status ++
      " requires_action=" ++ flagText res.requiresAction ++ " attach=" ++ res.attach.text)
    simp only [← String.append_assoc] at hline
    simp only [confirm, hr, confirmRecord, ha, hc, confirmed, ← Trace.append_assoc]
    refine complains_announce publish (hasked.append hline) ?_ _ _ _
    simp only [Trace.events_append, hsilent, Trace.events_ofCall, Trace.events_ofLog,
      List.append_nil]

end Operations

/-! ### What an event says -/

/-- **The event is about the step.** Its key is the id that the step put on record,
and so is the id in it; it says the status that was returned and the state that
stands for, and for a confirmation also what was returned about the customer and
about the attach. -/
inductive Step.Announces (st : Step σ) : Publication → Prop where
  | created {c : Created} {trace : Trace} {id : String}
    (returned : st.answer = .created (.ok c) trace)
    (recorded : st.after.registry = st.before.registry.put id c.status c.clientSecret) :
    st.Announces ⟨id, Envelope.createdType, "v1", Moment.zero, id,
      some (.intent ⟨id, c.status, (IntentState.ofStatus c.status).text, false, ""⟩)⟩
  | confirmed {c : Confirmed} {trace : Trace} {publish : Publish} {req : ConfirmRequest}
    {id : String} (asked : st.op = .confirm publish req)
    (returned : st.answer = .confirmed (.ok c) trace)
    (recorded : st.after.registry =
      (st.before.registry.find req.clientSecret).2.put id c.status req.clientSecret) :
    st.Announces ⟨id, Envelope.confirmedType, "v1", Moment.zero, id,
      some (.intent ⟨id, c.status, (IntentState.ofStatus c.status).text, c.requiresAction,
        c.attach.text⟩)⟩

/-- The step succeeds and publishes one event, about itself, or fails and
publishes none. -/
def Step.Once (st : Step σ) : Prop :=
  (st.succeeds = false ∧ st.events = []) ∨
    (st.succeeds = true ∧ ∃ e, st.events = [e] ∧ st.Announces e)

section Steps

variable (p : Provider σ)

theorem create_announces (s : Session σ) (publish : Publish) {req : CreateRequest} {x : Success}
    (h : (s.step p (.create publish req)).success? p = some x) :
    (s.step p (.create publish req)).Announces x.publication := by
  cases ho : opened? p s.remote req with
  | none =>
    obtain ⟨⟨f, hf⟩, -⟩ := create_none publish s.registry ho
    simp [Session.step, Step.success?, hf] at h
  | some i =>
    obtain ⟨hres, hreg⟩ := create_some publish s.registry ho
    obtain rfl : Success.created i.id i.status = x := by
      simpa [Session.step, Step.success?, Step.opened?, hres, ho] using h
    have hanswer : (s.step p (.create publish req)).answer =
        .created (.ok ⟨i.clientSecret, i.status⟩)
          (create p publish s.registry s.remote req).trace := by
      simp only [Session.step, hres]
    exact .created hanswer hreg

theorem confirm_announces (s : Session σ) (publish : Publish) {req : ConfirmRequest} {x : Success}
    (h : (s.step p (.confirm publish req)).success? p = some x) :
    (s.step p (.confirm publish req)).Announces x.publication := by
  obtain ⟨id, ht⟩ : ∃ id, (s.step p (.confirm publish req)).target? = some id := by
    simp only [Session.step, Step.success?] at h
    split at h
    · cases h
    · obtain ⟨id, hid, -⟩ := Option.map_eq_some_iff.mp h
      exact ⟨id, hid⟩
    · cases h
  obtain ⟨rec, hf, rfl⟩ : ∃ rec, (s.registry.find req.clientSecret).1 = some rec ∧ rec.id = id :=
    Option.map_eq_some_iff.mp ht
  have hc := confirm_resolved p publish s.remote hf
  obtain ⟨-, -, -, -, -, -, hsecret⟩ := Registry.find_eq_some_iff.mp hf
  cases hr : reply p s.remote rec (Text.trim req.paymentMethod) with
  | error f =>
    have hres := (confirmRecord_error p publish (s.registry.find req.clientSecret).2 _ _ _ hr).1
    simp [Session.step, Step.success?, hc, hres] at h
  | ok i =>
    obtain ⟨hres, hreg⟩ :=
      confirmRecord_ok p publish (s.registry.find req.clientSecret).2 s.remote rec _ hr
    rw [← hc] at hres hreg
    rw [hsecret] at hreg
    generalize hres' : confirmedResult rec (attach p s.remote rec.id _).1 i = c at hres
    have hstatus : i.status = c.status := by rw [← hres']; rfl
    have hanswer : (s.step p (.confirm publish req)).answer = .confirmed (.ok c) _ :=
      congrArg (Answer.confirmed · (confirm p publish s.registry s.remote req).trace) hres
    obtain rfl : Success.confirmed rec.id c.status c.requiresAction c.attach = x := by
      simpa only [Step.success?, hanswer, ht, Option.map_some, Option.some_inj] using h
    exact .confirmed rfl hanswer (hstatus ▸ hreg)

/-- **One event for each success, and none for a failure.** -/
theorem step_once (s : Session σ) (op : Op) : (s.step p op).Once := by
  cases step_publishes p s op with
  | nothing hfails _ hsilent => exact .inl ⟨hfails, hsilent⟩
  | success x hok hsome hevent =>
    refine .inr ⟨hok, x.publication, hevent, ?_⟩
    cases op with
    | registry op => cases op <;> cases hok
    | create publish req => exact create_announces p s publish hsome
    | confirm publish req => exact confirm_announces p s publish hsome

end Steps

/-! ### Another publisher -/

/-- What an operation leaves behind. -/
def Step.trace (st : Step σ) : Trace :=
  match st.answer with
  | .created _ trace => trace
  | .confirmed _ trace => trace
  | _ => .empty

/-- What the publisher answers during an operation. -/
def Op.publish : Op → Publish
  | .create publish _ => publish
  | .confirm publish _ => publish
  | .registry _ => fun _ => none

/-- The operation with a publisher that never fails. -/
def Op.unheard : Op → Op
  | .create _ req => .create (fun _ => none) req
  | .confirm _ req => .confirm (fun _ => none) req
  | .registry op => .registry op

/-- The round with a publisher that never fails. Rounds that are then the same
differ in what the publisher answers, and in nothing else. -/
def Round.unheard (rd : Round σ) : Round σ := { rd with op := rd.op.unheard }

/-- The answer without the complaints about the publisher. Results, calls, spans
and events are as they are. -/
def Answer.muted : Answer → Answer
  | .created result trace => .created result trace.muted
  | .confirmed result trace => .confirmed result trace.muted
  | .found record => .found record
  | .done => .done

/-- What a step answers and leads to, without the complaints about the
publisher. -/
def Step.muted (st : Step σ) : Answer × Session σ := (st.answer.muted, st.after)

section Runs

variable (p : Provider σ)

/-- **A fault of the publisher is logged, after all else.** -/
theorem step_log (s : Session σ) (op : Op) :
    let st := s.step p op
    st.trace.log = st.trace.muted.log ++ complaints st.op.publish st.events := by
  cases op with
  | create publish req => exact create_complains p publish s.registry s.remote req
  | confirm publish req => exact confirm_complains p publish s.registry s.remote req
  | registry op => cases op <;> rfl

/-- **A fault of the publisher is only logged.** -/
theorem step_muted (s : Session σ) {op op' : Op} (h : op.unheard = op'.unheard) :
    (s.step p op).muted = (s.step p op').muted := by
  cases op with
  | create publish req =>
    cases op' with
    | create publish' req' =>
      obtain ⟨-, rfl⟩ := Op.create.inj h
      exact congrArg (fun o : Outcome σ Created =>
        (Answer.created o.result o.trace, Session.mk o.registry o.remote))
        (create_muted p publish publish' s.registry s.remote req)
    | confirm publish' req' => cases h
    | registry op' => cases h
  | confirm publish req =>
    cases op' with
    | create publish' req' => cases h
    | confirm publish' req' =>
      obtain ⟨-, rfl⟩ := Op.confirm.inj h
      exact congrArg (fun o : Outcome σ Confirmed =>
        (Answer.confirmed o.result o.trace, Session.mk o.registry o.remote))
        (confirm_muted p publish publish' s.registry s.remote req)
    | registry op' => cases h
  | registry op =>
    cases op' with
    | create publish' req' => cases h
    | confirm publish' req' => cases h
    | registry op' =>
      obtain rfl := Op.registry.inj h
      rfl

/-- What holds of every step holds of the steps of every session. -/
theorem play_forall {P : Step σ → Prop} (h : ∀ (s : Session σ) op, P (s.step p op)) :
    ∀ (rounds : List (Round σ)) (s : Session σ), ∀ st ∈ s.play p rounds, P st
  | [], _ => fun _ hst => by cases hst
  | rd :: rounds, s =>
    List.forall_mem_cons.mpr ⟨h _ rd.op, play_forall h rounds (s.round p rd).after⟩

/-- The events of a session are about its successes, one about each and in
order. -/
theorem play_announces : ∀ (rounds : List (Round σ)) (s : Session σ),
    List.Forall₂ Step.Announces ((s.play p rounds).filter Step.succeeds) (s.published p rounds)
  | [], _ => .nil
  | rd :: rounds, s => by
    have ih := play_announces rounds (s.round p rd).after
    unfold Session.published at ih ⊢
    rw [Session.play, List.flatMap_cons]
    have honce : (s.round p rd).Once := step_once p ⟨s.registry, rd.meanwhile s.remote⟩ rd.op
    rcases honce with ⟨hfails, hsilent⟩ | ⟨hok, e, hevent, hsays⟩
    · rw [List.filter_cons_of_neg (by simpa using hfails)]
      exact hsilent ▸ ih
    · rw [List.filter_cons_of_pos hok]
      exact hevent ▸ .cons hsays ih

/-- **Two sessions whose publishers answer differently**, step by step. -/
theorem play_muted : ∀ (rounds rounds' : List (Round σ)) (s : Session σ),
    rounds.map Round.unheard = rounds'.map Round.unheard →
    (s.play p rounds).map Step.muted = (s.play p rounds').map Step.muted
  | [], [], _, _ => rfl
  | [], _ :: _, _, h => by cases h
  | _ :: _, [], _, h => by cases h
  | rd :: rounds, rd' :: rounds', s, h => by
    obtain ⟨hhead, htail⟩ := List.cons.inj h
    obtain ⟨hmeanwhile, hop⟩ : rd.meanwhile = rd'.meanwhile ∧ rd.op.unheard = rd'.op.unheard :=
      Round.mk.inj hhead
    have hround : (s.round p rd).muted = (s.round p rd').muted := by
      unfold Session.round
      rw [hmeanwhile]
      exact step_muted p _ hop
    -- both go on from the same session
    have hafter : (s.round p rd).after = (s.round p rd').after := congrArg Prod.snd hround
    have hrest := play_muted rounds rounds' (s.round p rd).after htail
    refine congrArg₂ List.cons hround ?_
    rw [hrest, hafter]

end Runs

/-- **Publishing harms nothing**, over any provider, from any session and in any
rounds. An operation that succeeds publishes one event and one that fails none, so
the events of the session are about its successes, in order: under the id that was
put on record, with what the caller was told. A fault of the publisher is logged
after all other lines of its operation. And where the publisher answers otherwise,
every step has the same result, the same calls, spans and events, leads to the
same registry and the same provider, and logs the same but for the complaints
about the publisher. -/
theorem publishing_harms_nothing (p : Provider σ) (s : Session σ) (rounds : List (Round σ)) :
    (∀ st ∈ s.play p rounds,
      (st.succeeds = false ∧ st.events = []) ∨
        (st.succeeds = true ∧ ∃ e, st.events = [e] ∧ st.Announces e)) ∧
    List.Forall₂ Step.Announces ((s.play p rounds).filter Step.succeeds) (s.published p rounds) ∧
    (∀ st ∈ s.play p rounds,
      st.trace.log = st.trace.muted.log ++ complaints st.op.publish st.events) ∧
    ∀ rounds', rounds.map Round.unheard = rounds'.map Round.unheard →
      (s.play p rounds).map Step.muted = (s.play p rounds').map Step.muted :=
  ⟨play_forall p (step_once p) rounds s, play_announces p rounds s,
    play_forall p (step_log p) rounds s, fun rounds' h => play_muted p rounds rounds' s h⟩

/-- A purchase and its payment, once with a publisher that takes every event and
once with one that is closed. -/
theorem publishing_harms_nothing_closed :
    let deaf : Publish := fun _ => none
    let closed : Publish := fun _ => some (.plain "io: read/write on closed pipe")
    let script : Script :=
      ⟨.ok ⟨"pi_1", "s1", Status.requiresConfirmation, none⟩,
        .ok ⟨"pi_9", "s9", Status.requiresAction, none⟩, some .alreadyAttached⟩
    let rounds (publish : Publish) : List (Round Script) :=
      [⟨id, .create publish ⟨.finite false 10 0, "usd", ""⟩⟩, ⟨id, .confirm publish ⟨"s2", ""⟩⟩,
        ⟨id, .confirm publish ⟨"s1", "pm_1"⟩⟩]
    let start : Session Script := ⟨Registry.new 1 1000, script⟩
    (start.play Script.provider (rounds closed)).map (fun st => (st.succeeds, st.trace.log.length)) =
        [(true, 2), (false, 0), (true, 2)] ∧
      (start.play Script.provider (rounds deaf)).map (fun st => (st.succeeds, st.trace.log.length)) =
        [(true, 1), (false, 0), (true, 1)] ∧
      (start.published Script.provider (rounds closed)).map (·.key) = ["pi_1", "pi_1"] ∧
      (start.play Script.provider (rounds closed)).map Step.muted =
        (start.play Script.provider (rounds deaf)).map Step.muted := by
  intro deaf closed script rounds start
  obtain ⟨-, -, -, hsame⟩ := publishing_harms_nothing Script.provider start (rounds closed)
  exact ⟨by decide +kernel, by decide +kernel, by decide +kernel, hsame (rounds deaf) rfl⟩

end Handshake
end PaymentGateway
