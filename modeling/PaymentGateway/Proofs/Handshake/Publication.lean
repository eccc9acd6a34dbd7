/-
# What a session publishes

Every creation and every confirmation that succeeds publishes one event, and
nothing else does (`step_publishes`); so the events of a session are those of its
successes, in order (`play_events`). What an event says is what the caller was
told: the status, whether the customer has to act and how the attach went, about
the id that is put on record (`Success`).

Key definitions: `Handshake.Success`, `Handshake.Step.success?`,
`Handshake.Step.events`, `Handshake.Success.publication`,
`Handshake.Step.Publishes`.
Key theorems: `Handshake.step_publishes`, `Handshake.play_events`,
`Handshake.play_successes_length`.
-/
import PaymentGateway.Proofs.Handshake.Failure

namespace PaymentGateway
namespace Handshake

variable {σ : Type}

/-- An operation that succeeded: the id of its intent, and what its caller was
told. -/
inductive Success where
  | created (id status : String)
  | confirmed (id status : String) (requiresAction : Bool) (attach : AttachOutcome)
  deriving Repr, DecidableEq

namespace Success

/-- The type of the event. -/
def type : Success → String
  | created .. => Envelope.createdType
  | confirmed .. => Envelope.confirmedType

/-- What the event says. -/
def data : Success → IntentData
  | created id status => ⟨id, status, (IntentState.ofStatus status).text, false, ""⟩
  | confirmed id status requiresAction attach =>
    ⟨id, status, (IntentState.ofStatus status).text, requiresAction, attach.text⟩

/-- The event, under the id of the intent as its key. -/
def publication (x : Success) : Publication := ⟨x.data.intentId, .ofIntent x.type x.data⟩

end Success

/-- Whether the caller of an operation was given a result. -/
def Step.succeeds (st : Step σ) : Bool :=
  match st.answer with
  | .created result _ => result.isOk
  | .confirmed result _ => result.isOk
  | _ => false

/-- The success of a step. A creation is about the intent that the provider
opened, a confirmation about the record that it found. -/
def Step.success? (p : Provider σ) (st : Step σ) : Option Success :=
  match st.answer with
  | .created (.ok c) _ => (st.opened? p).map fun i => .created i.id c.status
  | .confirmed (.ok c) _ =>
    st.target?.map fun id => .confirmed id c.status c.requiresAction c.attach
  | _ => none

/-- The events that a step publishes. -/
def Step.events (st : Step σ) : List Publication :=
  match st.answer with
  | .created _ trace => trace.events
  | .confirmed _ trace => trace.events
  | _ => []

section Operations

variable (p : Provider σ) (publish : Publish) (r : Registry) (s : σ)

theorem announce_events (type : String) (data : IntentData) :
    (announce publish type data).events = [⟨data.intentId, .ofIntent type data⟩] := by
  cases hp : publish (Envelope.ofIntent type data) <;> simp [announce, hp]

theorem create_events {req : CreateRequest} {i : Intent} (h : opened? p s req = some i) :
    (create p publish r s req).trace.events = [(Success.created i.id i.status).publication] := by
  cases ha : accept req with
  | error f => simp [opened?, ha] at h
  | ok params =>
    rcases hc : p.create params s with ⟨f | j, s'⟩
    · simp [opened?, ha, hc, Except.toOption] at h
    · have hj : j = i := by simpa [opened?, ha, hc, Except.toOption] using h
      subst hj
      simp [create, ha, hc, created, announce_events, Success.publication, Success.type,
        Success.data]

theorem confirmRecord_events {rec : Record} {method : String} {i : Intent}
    (h : reply p s rec method = .ok i) :
    (confirmRecord p publish r s rec method).trace.events =
      [(Success.confirmed rec.id i.status i.requiresAction
        (attach p s rec.id method).1).publication] := by
  have hattach := attach_events (p := p) (s := s) rec.id method
  rcases ha : attach p s rec.id method with ⟨outcome, s', trace⟩
  replace hattach : trace.events = [] := by rwa [ha] at hattach
  rcases hc : p.confirm rec.id method s' with ⟨g | j, s''⟩
  · simp [reply, attached, ha, hc] at h
  · have hj : j = i := by simpa [reply, attached, ha, hc] using h
    subst hj
    simp [confirmRecord, ha, hc, hattach, confirmed, announce_events, confirmedResult,
      Success.publication, Success.type, Success.data]

end Operations

/-! ### Steps -/

/-- **A step succeeds and publishes its success, or does neither.** -/
inductive Step.Publishes (p : Provider σ) (st : Step σ) : Prop where
  | nothing (fails : st.succeeds = false) (none : st.success? p = none) (silent : st.events = [])
  | success (x : Success) (succeeds : st.succeeds = true) (some : st.success? p = some x)
    (event : st.events = [x.publication])

variable (p : Provider σ)

theorem create_publishes (s : Session σ) (publish : Publish) (req : CreateRequest) :
    (s.step p (.create publish req)).Publishes p := by
  cases ho : opened? p s.remote req with
  | none =>
    obtain ⟨⟨f, hf⟩, -⟩ := create_none publish s.registry ho
    have hevents : (create p publish s.registry s.remote req).trace.events = [] := by
      rcases create_fails hf with ⟨-, hc⟩ | ⟨params, g, -, -, hc⟩
      · rw [hc]
        rfl
      · rw [hc]
        rfl
    refine .nothing ?_ ?_ hevents
    · simp [Session.step, Step.succeeds, hf, Except.isOk, Except.toBool]
    · simp [Session.step, Step.success?, hf]
  | some i =>
    obtain ⟨hi, -⟩ := create_some publish s.registry ho
    refine .success (.created i.id i.status) ?_ ?_ (create_events p publish s.registry s.remote ho)
    · simp [Session.step, Step.succeeds, hi, Except.isOk, Except.toBool]
    · simp [Session.step, Step.success?, Step.opened?, hi, ho]

theorem confirm_publishes (s : Session σ) (publish : Publish) (req : ConfirmRequest) :
    (s.step p (.confirm publish req)).Publishes p := by
  by_cases hs : req.clientSecret = ""
  · have hc := confirm_empty p publish s.registry s.remote hs
    exact .nothing (by simp [Session.step, Step.succeeds, hc, Except.isOk, Except.toBool])
      (by simp [Session.step, Step.success?, hc]) (by simp [Session.step, Step.events, hc])
  cases hf : (s.registry.find req.clientSecret).1 with
  | none =>
    have hc := confirm_unresolved p publish s.remote hs hf
    exact .nothing (by simp [Session.step, Step.succeeds, hc, Except.isOk, Except.toBool])
      (by simp [Session.step, Step.success?, hc]) (by simp [Session.step, Step.events, hc])
  | some rec =>
    have hc := confirm_resolved p publish s.remote hf
    cases hr : reply p s.remote rec (Text.trim req.paymentMethod) with
    | error f =>
      have hres := (confirmRecord_error p publish (s.registry.find req.clientSecret).2 _ _ _ hr).1
      refine .nothing ?_ ?_ ?_
      · simp [Session.step, Step.succeeds, hc, hres, Except.isOk, Except.toBool]
      · simp [Session.step, Step.success?, hc, hres]
      · simp [Session.step, Step.events, hc, confirmRecord_error_events hr]
    | ok i =>
      have hres := (confirmRecord_ok p publish (s.registry.find req.clientSecret).2 _ _ _ hr).1
      refine .success (.confirmed rec.id i.status i.requiresAction
        (attach p s.remote rec.id (Text.trim req.paymentMethod)).1) ?_ ?_ ?_
      · simp [Session.step, Step.succeeds, hc, hres, Except.isOk, Except.toBool]
      · simp [Session.step, Step.success?, Step.target?, hc, hres, hf, confirmedResult]
      · simp [Session.step, Step.events, hc, confirmRecord_events p publish _ _ hr]

theorem step_publishes (s : Session σ) (op : Op) : (s.step p op).Publishes p := by
  cases op with
  | create publish req => exact create_publishes p s publish req
  | confirm publish req => exact confirm_publishes p s publish req
  | registry op => cases op <;> exact .nothing rfl rfl rfl

/-! ### Sessions in rounds -/

theorem round_publishes (s : Session σ) (rd : Round σ) : (s.round p rd).Publishes p :=
  step_publishes p ⟨s.registry, rd.meanwhile s.remote⟩ rd.op

namespace Session

/-- The successes of a list of rounds, in order. -/
def successes (s : Session σ) (rounds : List (Round σ)) : List Success :=
  (s.play p rounds).filterMap (Step.success? p)

/-- The events that a list of rounds publishes, in order. -/
def published (s : Session σ) (rounds : List (Round σ)) : List Publication :=
  (s.play p rounds).flatMap Step.events

end Session

/-- **A session publishes one event for each success, in order.** -/
theorem play_events : ∀ (rounds : List (Round σ)) (s : Session σ),
    s.published p rounds = (s.successes p rounds).map Success.publication
  | [], _ => rfl
  | rd :: rounds, s => by
    have ih := play_events rounds (s.round p rd).after
    unfold Session.published Session.successes at ih ⊢
    rw [Session.play, List.flatMap_cons, List.filterMap_cons, ih]
    cases round_publishes p s rd with
    | nothing _ hnone hsilent =>
      rw [hnone, hsilent]
      rfl
    | success x _ hsome hevent =>
      rw [hsome, hevent]
      rfl

/-- The successes are the steps whose caller was given a result. -/
theorem play_successes_length : ∀ (rounds : List (Round σ)) (s : Session σ),
    (s.successes p rounds).length = (s.play p rounds).countP Step.succeeds
  | [], _ => rfl
  | rd :: rounds, s => by
    have ih := play_successes_length rounds (s.round p rd).after
    unfold Session.successes at ih ⊢
    rw [Session.play, List.filterMap_cons, List.countP_cons, ← ih]
    cases round_publishes p s rd with
    | nothing hfails hnone _ =>
      rw [hnone, hfails]
      rfl
    | success x hok hsome _ =>
      rw [hsome, hok]
      rfl

end Handshake
end PaymentGateway
