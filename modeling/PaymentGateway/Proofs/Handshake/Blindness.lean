/-
# A status on record decides nothing

The status that the registry has of an intent is what the provider said last,
and the provider may have moved on since. So a confirmation never spares itself
the question: it attaches the method if there is one and confirms, whatever is
on record. More is true: nothing that the handshake does depends on a status on
record. Two sessions that differ only in these statuses go on side by side,
with the same results, calls, events and log lines, and differ only in these
statuses ever after (`status_decides_nothing`).

One place shows the status on record: an attribute of the confirmation's span.
Blurring hides it there and in the registry. Each operation is a function of
the blurred registry as far as its blurred outcome goes (`create_alike`,
`confirm_alike`), so the blurred steps of a session are the same for all
sessions that are the same when blurred (`step_alike`, `play_alike`).

Key definitions: `Trace.blurred`, `Handshake.Session.blurred`,
`Handshake.Step.blurred`.
Key theorems: `Handshake.confirm_alike`, `Handshake.play_alike`,
`Handshake.status_decides_nothing`.
-/
import PaymentGateway.Proofs.Handshake.Session
import PaymentGateway.Proofs.Registry.Relabelling

namespace PaymentGateway

/-! ### Looking away from the status on record -/

/-- The span without the status on record. -/
def Span.blurred (s : Span) : Span :=
  { s with
    attributes := s.attributes.map fun (name, value) =>
      (name, if name = "payment.previous_status" then .text "" else value) }

namespace Trace

/-- The trace without the statuses on record; calls, log lines and events are
as they are. -/
def blurred (t : Trace) : Trace := { t with spans := t.spans.map Span.blurred }

@[simp] theorem blurred_append (a b : Trace) : (a ++ b).blurred = a.blurred ++ b.blurred :=
  congrArg (Trace.mk (a.calls ++ b.calls) (a.log ++ b.log) (a.events ++ b.events))
    List.map_append

@[simp] theorem blurred_ofSpan (s : Span) : (ofSpan s).blurred = ofSpan s.blurred := rfl

end Trace

namespace Registry

/-! ### The operations of the registry, blurred -/

variable {r r' : Registry}

theorem step_alike (h : r.blurred = r'.blurred) (op : Op) :
    (r.step op).blurred = (r'.step op).blurred :=
  calc (r.step op).blurred
    _ = r.blurred.step (op.relabel .blur) := (step_relabel .blur r op).symm
    _ = r'.blurred.step (op.relabel .blur) := by rw [h]
    _ = (r'.step op).blurred := step_relabel .blur r' op

theorem find_alike (h : r.blurred = r'.blurred) (secret : String) :
    (r.find secret).1.map (Record.relabel .blur) = (r'.find secret).1.map (Record.relabel .blur) :=
  calc (r.find secret).1.map (Record.relabel .blur)
    _ = (r.blurred.find secret).1 := congrArg Prod.fst (find_relabel .blur r secret).symm
    _ = (r'.blurred.find secret).1 := by rw [h]
    _ = (r'.find secret).1.map (Record.relabel .blur) :=
      congrArg Prod.fst (find_relabel .blur r' secret)

theorem get?_alike (h : r.blurred = r'.blurred) (id : String) :
    (r.get? id).map (Record.relabel .blur) = (r'.get? id).map (Record.relabel .blur) :=
  calc (r.get? id).map (Record.relabel .blur)
    _ = r.blurred.get? id := (get?_relabel .blur r id).symm
    _ = r'.blurred.get? id := by rw [h]
    _ = (r'.get? id).map (Record.relabel .blur) := get?_relabel .blur r' id

end Registry

namespace Handshake

variable {σ : Type}

def Outcome.blurred {α : Type} (o : Outcome σ α) : Outcome σ α :=
  { o with registry := o.registry.blurred, trace := o.trace.blurred }

def Session.blurred (s : Session σ) : Session σ := { s with registry := s.registry.blurred }

/-- The answer without the statuses on record. The results of creations and
confirmations are as they are. -/
def Answer.blurred : Answer → Answer
  | .created result trace => .created result trace.blurred
  | .confirmed result trace => .confirmed result trace.blurred
  | .found record => .found (record.map (Record.relabel .blur))
  | .done => .done

/-- What a step answers and leads to, without the statuses on record. -/
def Step.blurred (st : Step σ) : Answer × Session σ := (st.answer.blurred, st.after.blurred)

/-! ### A confirmation always asks -/

/-- **A confirmation that resolves asks the provider**, whatever status the
record has: an attach if there is a method, then one confirmation, and the
provider's state is the one after just these calls. -/
theorem confirm_asks (p : Provider σ) (publish : Publish) {r : Registry} (s : σ)
    {req : ConfirmRequest} {rec : Record} (h : (r.find req.clientSecret).1 = some rec) :
    let method := Text.trim req.paymentMethod
    (confirm p publish r s req).trace.calls =
        (if method = "" then [] else [.attach rec.id method]) ++ [.confirm rec.id method] ∧
      (confirm p publish r s req).remote =
        (p.confirm rec.id method (if method = "" then s else (p.attach method rec.id s).2)).2 := by
  intro method
  rw [confirm_resolved p publish s h, confirmRecord_calls, confirmRecord_remote, attached_eq]
  exact ⟨rfl, rfl⟩

/-! ### One operation on two registries -/

section Operations

variable (p : Provider σ) (publish : Publish) {r r' : Registry} (s : σ)

theorem create_alike (h : r.blurred = r'.blurred) (req : CreateRequest) :
    (create p publish r s req).blurred = (create p publish r' s req).blurred := by
  cases ha : accept req with
  | error f => simp only [create, ha, Outcome.blurred, h]
  | ok params =>
    rcases hc : p.create params s with ⟨f | i, s'⟩
    · simp only [create, ha, hc, Outcome.blurred, h]
    · have hput : (r.put i.id i.status i.clientSecret).blurred =
          (r'.put i.id i.status i.clientSecret).blurred :=
        Registry.step_alike h (.put i.id i.status i.clientSecret)
      simp only [create, ha, hc, Outcome.blurred, hput]

/-- The span of a confirmation shows the status on record in the one attribute
that is blurred, whatever is added to the span afterwards. -/
theorem confirmSpan_alike (id status status' secret : String)
    (more : List (String × Attribute)) (fault : Option String) (faults : List String) :
    let span := confirmSpan ⟨id, status, secret⟩
    let span' := confirmSpan ⟨id, status', secret⟩
    Span.blurred ⟨span.name, span.parent, span.attributes ++ more, fault, faults⟩ =
      Span.blurred ⟨span'.name, span'.parent, span'.attributes ++ more, fault, faults⟩ := by
  simp [Span.blurred, confirmSpan]

theorem failure_alike (op id status status' secret : String) (f : Fault) :
    (failure op (confirmSpan ⟨id, status, secret⟩) f).blurred =
      (failure op (confirmSpan ⟨id, status', secret⟩) f).blurred := by
  have hspan := confirmSpan_alike id status status' secret [] (some f.text) [f.text]
  simp only [List.append_nil] at hspan
  simp only [failure, Trace.blurred_append, Trace.blurred_ofSpan]
  exact congrArg (Trace.ofSpan · ++ _) hspan

theorem confirmed_alike (id status status' secret : String) (res : Confirmed) :
    (confirmed publish ⟨id, status, secret⟩ res).blurred =
      (confirmed publish ⟨id, status', secret⟩ res).blurred := by
  have hspan := confirmSpan_alike id status status' secret
    [("payment.status", .text res.status), ("payment.requires_action", .flag res.requiresAction)]
    none []
  simp only [confirmed, Trace.blurred_append, Trace.blurred_ofSpan]
  exact congrArg (_ ++ Trace.ofSpan ·) hspan

theorem confirmRecord_alike (h : r.blurred = r'.blurred) {rec rec' : Record}
    (hrec : rec.relabel .blur = rec'.relabel .blur) (method : String) :
    (confirmRecord p publish r s rec method).blurred =
      (confirmRecord p publish r' s rec' method).blurred := by
  obtain ⟨id, status, secret⟩ := rec
  obtain ⟨id', status', secret'⟩ := rec'
  obtain ⟨rfl, -, rfl⟩ : id = id' ∧ "" = "" ∧ secret = secret' := Record.mk.inj hrec
  -- only the span reads the record's status, so both ask the provider the same
  rcases ha : attach p s id method with ⟨outcome, s', trace⟩
  rcases hc : p.confirm id method s' with ⟨f | i, s''⟩
  · have htrace := failure_alike confirmOp id status status' secret f
    simp only [confirmRecord, ha, hc, Outcome.blurred, Trace.blurred_append, htrace, h]
  · have hput : (r.put id i.status secret).blurred = (r'.put id i.status secret).blurred :=
      Registry.step_alike h (.put id i.status secret)
    have htrace := confirmed_alike publish id status status' secret
    have hres : confirmedResult ⟨id, status, secret⟩ outcome i =
        confirmedResult ⟨id, status', secret⟩ outcome i := rfl
    simp only [confirmRecord, ha, hc, Outcome.blurred, Trace.blurred_append, htrace, hput, hres]

/-- **A confirmation on two registries** that differ in statuses only: the same
result, the same provider state, and a registry and a trace that differ in
statuses on record only. -/
theorem confirm_alike (h : r.blurred = r'.blurred) (req : ConfirmRequest) :
    (confirm p publish r s req).blurred = (confirm p publish r' s req).blurred := by
  by_cases hs : req.clientSecret = ""
  · rw [confirm_empty p publish r s hs, confirm_empty p publish r' s hs]
    simp only [Outcome.blurred, h]
  have hafter : (r.find req.clientSecret).2.blurred = (r'.find req.clientSecret).2.blurred :=
    Registry.step_alike h (.find req.clientSecret)
  have hfound := Registry.find_alike h req.clientSecret
  cases hf : (r.find req.clientSecret).1 with
  | none =>
    have hf' : (r'.find req.clientSecret).1 = none := by
      rwa [hf, Option.map_none, eq_comm, Option.map_eq_none_iff] at hfound
    rw [confirm_unresolved p publish s hs hf, confirm_unresolved p publish s hs hf']
    simp only [Outcome.blurred, hafter]
  | some rec =>
    rw [hf, Option.map_some, eq_comm, Option.map_eq_some_iff] at hfound
    obtain ⟨rec', hf', hrec⟩ := hfound
    rw [confirm_resolved p publish s hf, confirm_resolved p publish s hf']
    exact confirmRecord_alike p publish s hafter hrec.symm _

end Operations

/-! ### Two sessions side by side -/

section Runs

variable (p : Provider σ)

/-- **A step of two sessions** that differ in statuses on record only. -/
theorem step_alike {s s' : Session σ} (h : s.blurred = s'.blurred) (op : Op) :
    (s.step p op).blurred = (s'.step p op).blurred := by
  obtain ⟨r, remote⟩ := s
  obtain ⟨r', remote'⟩ := s'
  obtain ⟨hr, rfl⟩ : r.blurred = r'.blurred ∧ remote = remote' := Session.mk.inj h
  cases op with
  | create publish req =>
    have ho := create_alike p publish remote hr req
    exact congrArg (fun o : Outcome σ Created =>
      (Answer.created o.result o.trace, Session.mk o.registry o.remote)) ho
  | confirm publish req =>
    have ho := confirm_alike p publish remote hr req
    exact congrArg (fun o : Outcome σ Confirmed =>
      (Answer.confirmed o.result o.trace, Session.mk o.registry o.remote)) ho
  | registry change =>
    have hafter := congrArg (Session.mk · remote) (Registry.step_alike hr change)
    refine Prod.ext ?_ hafter
    cases change with
    | put id status secret => rfl
    | find secret => exact congrArg Answer.found (Registry.find_alike hr secret)
    | get id => exact congrArg Answer.found (Registry.get?_alike hr id)
    | advance ns => rfl

/-- **A run of two sessions** that differ in statuses on record only, step by
step. -/
theorem play_alike : ∀ (rounds : List (Round σ)) {s s' : Session σ}, s.blurred = s'.blurred →
    (s.play p rounds).map Step.blurred = (s'.play p rounds).map Step.blurred
  | [], _, _, _ => rfl
  | rd :: rounds, s, s', h => by
    -- the provider's states are the same, so they are after what happens meanwhile
    have hmeanwhile : Session.blurred ⟨s.registry, rd.meanwhile s.remote⟩ =
        Session.blurred ⟨s'.registry, rd.meanwhile s'.remote⟩ := by
      obtain ⟨hr, hremote⟩ := Session.mk.inj h
      simp only [Session.blurred, hr, hremote]
    have hround := step_alike p hmeanwhile rd.op
    have hafter : (s.round p rd).after.blurred = (s'.round p rd).after.blurred :=
      congrArg Prod.snd hround
    exact congrArg₂ List.cons hround (play_alike rounds hafter)

end Runs

/-- **A status on record decides nothing**, for every provider. A confirmation
that resolves makes its calls whatever is on record: an attach if and only if
there is a method, and then one confirmation, both about the resolved id. And
two sessions that differ in statuses on record only answer every operation
alike, with the same calls, events and log lines and spans that show another
status on record at most, and differ in these statuses only after every step. -/
theorem status_decides_nothing (p : Provider σ) :
    (∀ (publish : Publish) (r : Registry) (s : σ) (req : ConfirmRequest) (rec : Record),
      (r.find req.clientSecret).1 = some rec →
      let method := Text.trim req.paymentMethod
      (confirm p publish r s req).trace.calls =
          (if method = "" then [] else [.attach rec.id method]) ++ [.confirm rec.id method] ∧
        (confirm p publish r s req).remote =
          (p.confirm rec.id method
            (if method = "" then s else (p.attach method rec.id s).2)).2) ∧
    ∀ (s s' : Session σ) (rounds : List (Round σ)), s.blurred = s'.blurred →
      (s.play p rounds).map Step.blurred = (s'.play p rounds).map Step.blurred :=
  ⟨fun publish _ s _ _ h => confirm_asks p publish s h,
    fun _ _ rounds h => play_alike p rounds h⟩

/-- An intent on record as succeeded, and the same intent on record as waiting
for its customer: both times a method is attached and the intent confirmed, and
only the spans tell which is which. -/
theorem status_decides_nothing_succeeded :
    let script : Script :=
      ⟨.error .canceled, .ok ⟨"pi_1", "s1", Status.requiresAction, none⟩, none⟩
    let quiet : Publish := fun _ => none
    let request : ConfirmRequest := ⟨"s1", " pm_card_visa "⟩
    let rounds : List (Round Script) :=
      [⟨id, .confirm quiet request⟩, ⟨id, .registry (.advance 5)⟩,
        ⟨id, .create quiet ⟨.finite false 10 0, "usd", ""⟩⟩]
    let one : Session Script := ⟨(Registry.new 1 1000).put "pi_1" Status.succeeded "s1", script⟩
    let two : Session Script := ⟨(Registry.new 1 1000).put "pi_1" Status.requiresAction "s1", script⟩
    (confirm Script.provider quiet one.registry script request).trace.calls =
        [.attach "pi_1" "pm_card_visa", .confirm "pi_1" "pm_card_visa"] ∧
      (confirm Script.provider quiet one.registry script request).trace.spans ≠
        (confirm Script.provider quiet two.registry script request).trace.spans ∧
      (one.play Script.provider rounds).map Step.blurred =
        (two.play Script.provider rounds).map Step.blurred := by
  intro script quiet request rounds one two
  obtain ⟨hasks, halike⟩ := status_decides_nothing Script.provider
  have hfound : (one.registry.find "s1").1 = some ⟨"pi_1", Status.succeeded, "s1"⟩ := by
    decide +kernel
  have hmethod : Text.trim request.paymentMethod = "pm_card_visa" := by decide +kernel
  obtain ⟨hcalls, -⟩ := hasks quiet one.registry script request _ hfound
  rw [hmethod, if_neg (by decide)] at hcalls
  exact ⟨hcalls, by decide +kernel, halike one two rounds rfl⟩

end Handshake
end PaymentGateway
