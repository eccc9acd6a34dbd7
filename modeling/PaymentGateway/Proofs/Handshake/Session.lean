/-
# Sessions of the handshake

A session is a registry beside a provider's state. Its operations are creations
and confirmations, each with the publisher's answer to its event, and
operations on the registry itself; a run is a list of operations, and its log
has every step with the session before and after it. The provider is any
function of its own state, so its replies may depend on all that happened
before. Where the provider also changes by itself between two operations, the
session goes in rounds.

What one operation does is said once for the creation (`create_none`,
`create_some`) and once for the confirmation (`confirm_unresolved`,
`confirm_resolved`, `confirmRecord_error`, `confirmRecord_ok`). To the registry
every operation is a short run of registry operations (`step_registry`), so
the registry of a session is the registry of a run (`run_registry`).

Key definitions: `Handshake.Op`, `Handshake.Session`, `Handshake.Step`,
`Handshake.Session.run`, `Handshake.Session.log`, `Handshake.Session.play`,
`Handshake.Session.opened`, `Handshake.Session.issued`.
Key theorems: `Handshake.confirmRecord_calls`, `Handshake.issued_eq`,
`Handshake.run_coherent`.
-/
import PaymentGateway.Handshake
import PaymentGateway.Proofs.Registry.Run

namespace PaymentGateway

namespace Trace

/-! ### The calls, the log and the events of a trace -/

@[simp] theorem calls_append (a b : Trace) : (a ++ b).calls = a.calls ++ b.calls := rfl
@[simp] theorem calls_empty : Trace.empty.calls = [] := rfl
@[simp] theorem calls_ofCall (c : Call) : (ofCall c).calls = [c] := rfl
@[simp] theorem calls_ofLog (s : String) : (ofLog s).calls = [] := rfl
@[simp] theorem calls_ofSpan (s : Span) : (ofSpan s).calls = [] := rfl
@[simp] theorem calls_ofEvent (e : Publication) : (ofEvent e).calls = [] := rfl

@[simp] theorem log_append (a b : Trace) : (a ++ b).log = a.log ++ b.log := rfl
@[simp] theorem log_empty : Trace.empty.log = [] := rfl
@[simp] theorem log_ofCall (c : Call) : (ofCall c).log = [] := rfl
@[simp] theorem log_ofLog (s : String) : (ofLog s).log = [s] := rfl
@[simp] theorem log_ofSpan (s : Span) : (ofSpan s).log = [] := rfl

@[simp] theorem events_append (a b : Trace) : (a ++ b).events = a.events ++ b.events := rfl
@[simp] theorem events_empty : Trace.empty.events = [] := rfl
@[simp] theorem events_ofCall (c : Call) : (ofCall c).events = [] := rfl
@[simp] theorem events_ofLog (s : String) : (ofLog s).events = [] := rfl
@[simp] theorem events_ofSpan (s : Span) : (ofSpan s).events = [] := rfl
@[simp] theorem events_ofEvent (e : Publication) : (ofEvent e).events = [e] := rfl

end Trace

namespace Handshake

variable {σ : Type}

/-! ### A creation -/

/-- The intent that a request for a new one opens with the provider, if any. -/
def opened? (p : Provider σ) (s : σ) (req : CreateRequest) : Option Intent :=
  match accept req with
  | .error _ => none
  | .ok params => (p.create params s).1.toOption

/-- A creation that opens no intent fails and leaves the registry alone. -/
theorem create_none {p : Provider σ} {s : σ} {req : CreateRequest} (publish : Publish)
    (r : Registry) (h : opened? p s req = none) :
    (∃ f, (create p publish r s req).result = .error f) ∧
      (create p publish r s req).registry = r := by
  cases ha : accept req with
  | error f => simp [create, ha]
  | ok params =>
    rcases hc : p.create params s with ⟨f | i, s'⟩
    · simp [create, ha, hc]
    · simp [opened?, ha, hc, Except.toOption] at h

/-- A creation that opens an intent returns its secret and puts it on record. -/
theorem create_some {p : Provider σ} {s : σ} {req : CreateRequest} {i : Intent}
    (publish : Publish) (r : Registry) (h : opened? p s req = some i) :
    (create p publish r s req).result = .ok ⟨i.clientSecret, i.status⟩ ∧
      (create p publish r s req).registry = r.put i.id i.status i.clientSecret := by
  cases ha : accept req with
  | error f => simp [opened?, ha] at h
  | ok params =>
    rcases hc : p.create params s with ⟨f | j, s'⟩
    · simp [opened?, ha, hc, Except.toOption] at h
    · have hj : j = i := by simpa [opened?, ha, hc, Except.toOption] using h
      subst hj
      simp [create, ha, hc]

theorem create_remote (p : Provider σ) (publish : Publish) (r : Registry) (s : σ)
    (req : CreateRequest) : (create p publish r s req).remote =
      match accept req with
      | .error _ => s
      | .ok params => (p.create params s).2 := by
  cases ha : accept req with
  | error f => simp [create, ha]
  | ok params => rcases hc : p.create params s with ⟨f | i, s'⟩ <;> simp [create, ha, hc]

/-! ### A confirmation -/

/-- A confirmation without a secret asks nobody and looks nothing up. -/
theorem confirm_empty {req : ConfirmRequest} (p : Provider σ) (publish : Publish) (r : Registry)
    (s : σ) (hs : req.clientSecret = "") :
    confirm p publish r s req = ⟨.error (.invalid secretMessage), r, s, .empty⟩ := by
  simp [confirm, resolve, hs]

/-- A confirmation for a secret that is not found asks nobody. -/
theorem confirm_unresolved {r : Registry} {req : ConfirmRequest} (p : Provider σ)
    (publish : Publish) (s : σ) (hs : req.clientSecret ≠ "")
    (h : (r.find req.clientSecret).1 = none) :
    confirm p publish r s req =
      ⟨.error .notFound, (r.find req.clientSecret).2, s, .empty⟩ := by
  rcases hf : r.find req.clientSecret with ⟨rec, r'⟩
  rw [hf] at h
  cases h
  simp [confirm, resolve, hs, hf]

theorem find_empty (r : Registry) : r.find "" = (none, r) := by
  simp [Registry.find]

/-- A confirmation for a secret that is found confirms the record found. -/
theorem confirm_resolved {r : Registry} {req : ConfirmRequest} {rec : Record} (p : Provider σ)
    (publish : Publish) (s : σ) (h : (r.find req.clientSecret).1 = some rec) :
    confirm p publish r s req = confirmRecord p publish (r.find req.clientSecret).2 s rec
      (Text.trim req.paymentMethod) := by
  have hs : req.clientSecret ≠ "" := by
    intro h0
    rw [h0, find_empty] at h
    cases h
  rcases hf : r.find req.clientSecret with ⟨rec', r'⟩
  rw [hf] at h
  cases h
  simp [confirm, resolve, hs, hf]

section ConfirmRecord

variable (p : Provider σ) (publish : Publish) (r : Registry) (s : σ) (rec : Record)
  (method : String)

/-- The provider's state after the best-effort attach. -/
def attached : σ := (attach p s rec.id method).2.1

theorem attached_eq :
    attached p s rec method = if method = "" then s else (p.attach method rec.id s).2 := by
  unfold attached attach
  split <;> rfl

/-- What the provider replies to the confirmation of a record. -/
def reply : Except Fault Intent := (p.confirm rec.id method (attached p s rec method)).1

/-- A script replies to the confirmation in its one way, whatever came before. -/
theorem reply_script (script : Script) :
    reply Script.provider script rec method = script.confirm := by
  unfold reply
  rw [attached_eq]
  split <;> rfl

theorem confirmRecord_remote : (confirmRecord p publish r s rec method).remote =
    (p.confirm rec.id method (attached p s rec method)).2 := by
  rcases ha : attach p s rec.id method with ⟨outcome, s', trace⟩
  rcases hc : p.confirm rec.id method s' with ⟨f | i, s''⟩ <;>
    simp [confirmRecord, attached, ha, hc]

theorem confirmRecord_error {f : Fault} (h : reply p s rec method = .error f) :
    (confirmRecord p publish r s rec method).result = .error (.call confirmOp (some f)) ∧
      (confirmRecord p publish r s rec method).registry = r := by
  rcases ha : attach p s rec.id method with ⟨outcome, s', trace⟩
  rcases hc : p.confirm rec.id method s' with ⟨g | i, s''⟩
  · have hg : g = f := by simpa [reply, attached, ha, hc] using h
    subst hg
    simp [confirmRecord, ha, hc]
  · simp [reply, attached, ha, hc] at h

/-- On success the record's status becomes the reply's; id and secret stay those
of the record, whatever the reply has. -/
theorem confirmRecord_ok {i : Intent} (h : reply p s rec method = .ok i) :
    (confirmRecord p publish r s rec method).result =
        .ok (confirmedResult rec (attach p s rec.id method).1 i) ∧
      (confirmRecord p publish r s rec method).registry =
        r.put rec.id i.status rec.clientSecret := by
  rcases ha : attach p s rec.id method with ⟨outcome, s', trace⟩
  rcases hc : p.confirm rec.id method s' with ⟨g | j, s''⟩
  · simp [reply, attached, ha, hc] at h
  · have hj : j = i := by simpa [reply, attached, ha, hc] using h
    subst hj
    simp [confirmRecord, ha, hc]

theorem announce_calls (type : String) (data : IntentData) :
    (announce publish type data).calls = [] := by
  cases hp : publish (Envelope.ofIntent type data) <;> simp [announce, hp]

theorem attach_calls (id : String) : (attach p s id method).2.2.calls =
    if method = "" then [] else [.attach id method] := by
  unfold attach
  split
  · rfl
  · rcases p.attach method id s with ⟨answer, s'⟩
    simp only [attachTrace]
    split <;> simp

/-- **The calls of a confirmation**: an attach if there is a method, then the
confirmation itself, both about the record's id. -/
theorem confirmRecord_calls : (confirmRecord p publish r s rec method).trace.calls =
    (if method = "" then [] else [.attach rec.id method]) ++ [.confirm rec.id method] := by
  rw [← attach_calls p s method rec.id]
  rcases ha : attach p s rec.id method with ⟨outcome, s', trace⟩
  rcases hc : p.confirm rec.id method s' with ⟨f | i, s''⟩
  · simp [confirmRecord, ha, hc, failure]
  · simp [confirmRecord, ha, hc, confirmed, announce_calls]

end ConfirmRecord

/-- All that a confirmation writes is the record found, with another status. -/
theorem confirm_registry {r : Registry} {req : ConfirmRequest} {rec : Record} (p : Provider σ)
    (publish : Publish) (s : σ) (h : (r.find req.clientSecret).1 = some rec) :
    (confirm p publish r s req).registry = (r.find req.clientSecret).2 ∨
      ∃ status, (confirm p publish r s req).registry =
        (r.find req.clientSecret).2.put rec.id status rec.clientSecret := by
  rw [confirm_resolved p publish s h]
  cases hr : reply p s rec (Text.trim req.paymentMethod) with
  | error f => exact .inl (confirmRecord_error p publish _ s rec _ hr).2
  | ok i => exact .inr ⟨i.status, (confirmRecord_ok p publish _ s rec _ hr).2⟩

/-! ### Sessions -/

/-- An operation of a session: a creation or a confirmation, with what the
publisher answers to its event, or an operation on the registry itself. -/
inductive Op where
  | create (publish : Publish) (req : CreateRequest)
  | confirm (publish : Publish) (req : ConfirmRequest)
  | registry (op : Registry.Op)

/-- Creations and confirmations, the operations that callers have. -/
def Op.isRequest : Op → Bool
  | .registry _ => false
  | _ => true

/-- A registry and the state of the provider. -/
structure Session (σ : Type) where
  registry : Registry
  remote : σ

/-- What an operation answers and leaves behind. -/
inductive Answer where
  | created (result : Except Fault Created) (trace : Trace)
  | confirmed (result : Except Fault Confirmed) (trace : Trace)
  | found (record : Option Record)
  | done

/-- A step: the operation, its answer, and the session before and after it. -/
structure Step (σ : Type) where
  op : Op
  before : Session σ
  answer : Answer
  after : Session σ

/-- What an operation on the registry itself answers. -/
def registryAnswer (r : Registry) : Registry.Op → Answer
  | .find secret => .found (r.find secret).1
  | .get id => .found (r.get? id)
  | _ => .done

namespace Session

/-- One step of a session. -/
def step (p : Provider σ) (s : Session σ) (op : Op) : Step σ :=
  match op with
  | .create publish req =>
    let o := Handshake.create p publish s.registry s.remote req
    ⟨op, s, .created o.result o.trace, ⟨o.registry, o.remote⟩⟩
  | .confirm publish req =>
    let o := Handshake.confirm p publish s.registry s.remote req
    ⟨op, s, .confirmed o.result o.trace, ⟨o.registry, o.remote⟩⟩
  | .registry change =>
    ⟨op, s, registryAnswer s.registry change, ⟨s.registry.step change, s.remote⟩⟩

/-- The session after a list of operations. -/
def run (p : Provider σ) (s : Session σ) (ops : List Op) : Session σ :=
  ops.foldl (fun s op => (s.step p op).after) s

/-- The steps of a list of operations. -/
def log (p : Provider σ) : Session σ → List Op → List (Step σ)
  | _, [] => []
  | s, op :: ops => s.step p op :: log p (s.step p op).after ops

end Session

/-- An operation, and before it what becomes of the provider's state without
the handshake: a script gets the replies for this operation, a service is used
by others. -/
structure Round (σ : Type) where
  meanwhile : σ → σ
  op : Op

namespace Session

/-- One round of a session. -/
def round (p : Provider σ) (s : Session σ) (rd : Round σ) : Step σ :=
  step p ⟨s.registry, rd.meanwhile s.remote⟩ rd.op

/-- The steps of a list of rounds. -/
def play (p : Provider σ) : Session σ → List (Round σ) → List (Step σ)
  | _, [] => []
  | s, rd :: rds => s.round p rd :: play p (s.round p rd).after rds

end Session

/-- The intent that a step opens with the provider, if any. -/
def Step.opened? (p : Provider σ) (st : Step σ) : Option Intent :=
  match st.op with
  | .create _ req => Handshake.opened? p st.before.remote req
  | _ => none

/-- The client secret that a step returns for a new intent, if any. -/
def Step.issued? (st : Step σ) : Option String :=
  match st.answer with
  | .created (.ok c) _ => some c.clientSecret
  | _ => none

/-- The id of the record that a confirmation resolves to, if any. -/
def Step.target? (st : Step σ) : Option String :=
  match st.op with
  | .confirm _ req => (st.before.registry.find req.clientSecret).1.map (·.id)
  | _ => none

/-- The status that a confirmation returns, if it succeeds. -/
def Step.returned? (st : Step σ) : Option String :=
  match st.answer with
  | .confirmed (.ok c) _ => some c.status
  | _ => none

/-- The fault that a confirmation fails with, if it fails. -/
def Step.fault? (st : Step σ) : Option Fault :=
  match st.answer with
  | .confirmed (.error f) _ => some f
  | _ => none

/-- What a confirmation says of the provider's reply: the status, or the fault
as that of a failed call. -/
inductive Step.Says (st : Step σ) : Except Fault Intent → Prop where
  | ok {i : Intent} (h : st.returned? = some i.status) : st.Says (.ok i)
  | error {f : Fault} (h : st.returned? = none)
    (hf : st.fault? = some (.call confirmOp (some f))) : st.Says (.error f)

namespace Session

/-- The intents the provider opened in a run, the oldest first. -/
def opened (p : Provider σ) (s : Session σ) (ops : List Op) : List Intent :=
  (s.log p ops).filterMap (Step.opened? p)

/-- The client secrets that the creations of a run returned. -/
def issued (p : Provider σ) (s : Session σ) (ops : List Op) : List String :=
  (s.log p ops).filterMap Step.issued?

end Session

/-- Intents with pairwise distinct ids and pairwise distinct secrets. -/
structure Fresh (is : List Intent) : Prop where
  ids : (is.map (·.id)).Nodup
  secrets : (is.map (·.clientSecret)).Nodup

instance (is : List Intent) : Decidable (Fresh is) :=
  decidable_of_iff ((is.map (·.id)).Nodup ∧ (is.map (·.clientSecret)).Nodup)
    ⟨fun h => ⟨h.1, h.2⟩, fun h => ⟨h.ids, h.secrets⟩⟩

theorem Fresh.left {is js : List Intent} (h : Fresh (is ++ js)) : Fresh is where
  ids := h.ids.sublist ((List.sublist_append_left is js).map _)
  secrets := h.secrets.sublist ((List.sublist_append_left is js).map _)

theorem Fresh.snoc {is : List Intent} {i : Intent} (h : Fresh is)
    (hnew : ∀ j ∈ is, j.id ≠ i.id ∧ j.clientSecret ≠ i.clientSecret) : Fresh (is ++ [i]) := by
  constructor <;> rw [List.map_append, List.map_singleton, List.nodup_append]
  · refine ⟨h.ids, List.nodup_singleton _, fun a ha b hb => ?_⟩
    obtain ⟨j, hj, rfl⟩ := List.mem_map.mp ha
    rw [List.mem_singleton.mp hb]
    exact (hnew j hj).1
  · refine ⟨h.secrets, List.nodup_singleton _, fun a ha b hb => ?_⟩
    obtain ⟨j, hj, rfl⟩ := List.mem_map.mp ha
    rw [List.mem_singleton.mp hb]
    exact (hnew j hj).2

theorem Fresh.new {is : List Intent} {i : Intent} (h : Fresh (is ++ [i])) :
    ∀ j ∈ is, j.id ≠ i.id ∧ j.clientSecret ≠ i.clientSecret := by
  intro j hj
  have hids := h.ids
  have hsecrets := h.secrets
  simp only [List.map_append, List.map_cons, List.map_nil, List.nodup_append,
    List.mem_singleton] at hids hsecrets
  exact ⟨hids.2.2 _ (List.mem_map_of_mem hj) _ rfl, hsecrets.2.2 _ (List.mem_map_of_mem hj) _ rfl⟩

section Runs

variable (p : Provider σ) (s : Session σ)

theorem step_before (op : Op) : (s.step p op).before = s := by
  cases op <;> rfl

theorem run_append (ops more : List Op) : s.run p (ops ++ more) = (s.run p ops).run p more :=
  List.foldl_append

theorem run_snoc (ops : List Op) (op : Op) :
    s.run p (ops ++ [op]) = ((s.run p ops).step p op).after :=
  run_append p s ops [op]

theorem log_append : ∀ (s : Session σ) (ops more : List Op),
    s.log p (ops ++ more) = s.log p ops ++ (s.run p ops).log p more
  | _, [], _ => rfl
  | s, op :: ops, more => congrArg (s.step p op :: ·) (log_append (s.step p op).after ops more)

/-- A step of a log is the step of its operation, after the operations before
it. -/
theorem log_split : ∀ (ops : List Op) (s : Session σ) {earlier later : List (Step σ)} {st : Step σ},
    s.log p ops = earlier ++ st :: later → ∃ before op after, ops = before ++ op :: after ∧
      s.log p before = earlier ∧ (s.run p before).step p op = st
  | [], _, [], _, _, h => by cases h
  | [], _, _ :: _, _, _, h => by cases h
  | op :: ops, s, [], _, _, h => ⟨[], op, ops, rfl, rfl, (List.cons.inj h).1⟩
  | op :: ops, s, x :: earlier, _, _, h => by
    obtain ⟨rfl, hrest⟩ := List.cons.inj h
    obtain ⟨before, o, after, rfl, rfl, hst⟩ := log_split ops _ hrest
    exact ⟨op :: before, o, after, rfl, rfl, hst⟩

theorem opened_snoc (ops : List Op) (op : Op) : s.opened p (ops ++ [op]) =
    s.opened p ops ++ (((s.run p ops).step p op).opened? p).toList := by
  rw [Session.opened, log_append, List.filterMap_append]
  cases h : ((s.run p ops).step p op).opened? p <;> simp [Session.opened, Session.log, h]

/-- A creation returns the secret of the intent it opens, and no other step
returns one. -/
theorem step_issued (op : Op) :
    (s.step p op).issued? = ((s.step p op).opened? p).map (·.clientSecret) := by
  cases op with
  | create publish req =>
    cases h : opened? p s.remote req with
    | none =>
      obtain ⟨⟨f, hf⟩, -⟩ := create_none publish s.registry h
      simp [Session.step, Step.issued?, Step.opened?, hf, h]
    | some i =>
      obtain ⟨hi, -⟩ := create_some publish s.registry h
      simp [Session.step, Step.issued?, Step.opened?, hi, h]
  | confirm publish req => rfl
  | registry change => cases change <;> rfl

theorem issued_eq : ∀ (s : Session σ) (ops : List Op),
    s.issued p ops = (s.opened p ops).map (·.clientSecret)
  | _, [] => rfl
  | s, op :: ops => by
    have ih := issued_eq (s.step p op).after ops
    have hstep := step_issued p s op
    simp only [Session.issued, Session.opened, Session.log] at ih ⊢
    cases h : (s.step p op).opened? p with
    | none =>
      rw [h] at hstep
      rw [List.filterMap_cons_none hstep, List.filterMap_cons_none h, ih]
    | some i =>
      rw [h] at hstep
      rw [List.filterMap_cons_some hstep, List.filterMap_cons_some h, ih]
      rfl

/-- **A step that resolves to an id confirms it with the provider**, after an
attach, and says what the provider replies. -/
theorem step_target {op : Op} {id : String} (h : (s.step p op).target? = some id) :
    ∃ publish req rec, op = .confirm publish req ∧
      (s.registry.find req.clientSecret).1 = some rec ∧ rec.id = id ∧
      (s.step p op).after.remote = (p.confirm id (Text.trim req.paymentMethod)
        (attached p s.remote rec (Text.trim req.paymentMethod))).2 ∧
      (s.step p op).Says (reply p s.remote rec (Text.trim req.paymentMethod)) := by
  cases op with
  | create publish req => simp [Session.step, Step.target?] at h
  | registry change => simp [Session.step, Step.target?] at h
  | confirm publish req =>
    obtain ⟨rec, hf, rfl⟩ : ∃ rec, (s.registry.find req.clientSecret).1 = some rec ∧ rec.id = id :=
      Option.map_eq_some_iff.mp h
    have hc := confirm_resolved p publish s.remote hf
    refine ⟨publish, req, rec, rfl, hf, rfl, ?_, ?_⟩
    · simp only [Session.step, hc, confirmRecord_remote]
    · cases hr : reply p s.remote rec (Text.trim req.paymentMethod) with
      | ok i =>
        obtain ⟨hres, -⟩ :=
          confirmRecord_ok p publish (s.registry.find req.clientSecret).2 s.remote rec _ hr
        refine .ok ?_
        simp only [Session.step, Step.returned?, hc, hres]
        rfl
      | error f =>
        obtain ⟨hres, -⟩ :=
          confirmRecord_error p publish (s.registry.find req.clientSecret).2 s.remote rec _ hr
        refine .error ?_ ?_
        · simp only [Session.step, Step.returned?, hc, hres]
        · simp only [Session.step, Step.fault?, hc, hres]

/-- **A step that resolves to an id records what it returns**: the status it
returns, under that id and with the secret on record, or nothing. -/
theorem step_target_registry {op : Op} {id : String} (h : (s.step p op).target? = some id) :
    ∃ secret rec, (s.registry.find secret).1 = some rec ∧ rec.id = id ∧
      (s.step p op).after.registry =
        match (s.step p op).returned? with
        | some status => (s.registry.find secret).2.put id status rec.clientSecret
        | none => (s.registry.find secret).2 := by
  obtain ⟨publish, req, rec, rfl, hf, rfl, -, -⟩ := step_target p s h
  refine ⟨req.clientSecret, rec, hf, rfl, ?_⟩
  have hc := confirm_resolved p publish s.remote hf
  cases hr : reply p s.remote rec (Text.trim req.paymentMethod) with
  | ok i =>
    obtain ⟨hres, hreg⟩ :=
      confirmRecord_ok p publish (s.registry.find req.clientSecret).2 s.remote rec _ hr
    simp only [Session.step, Step.returned?, hc, hres, hreg]
    rfl
  | error f =>
    obtain ⟨hres, hreg⟩ :=
      confirmRecord_error p publish (s.registry.find req.clientSecret).2 s.remote rec _ hr
    simp only [Session.step, Step.returned?, hc, hres, hreg]

/-- So it changes one record, and of that one the status. -/
theorem step_target_get? (hc : Registry.Coherent s.registry.tables) {op : Op} {id : String}
    (h : (s.step p op).target? = some id) (other : String) :
    (s.step p op).after.registry.get? other =
      if other = id then (s.registry.get? id).map fun rec =>
        { rec with status := (s.step p op).returned?.getD rec.status }
      else s.registry.get? other := by
  obtain ⟨secret, rec, hf, rfl, hafter⟩ := step_target_registry p s h
  have hget := Registry.get?_of_find hc hf
  have hsame := Registry.get?_find hc.keys secret
  rw [hafter]
  cases (s.step p op).returned? with
  | none =>
    simp only [hsame, hget, Option.map_some, Option.getD_none]
    split
    · rename_i ho
      rw [ho, hget]
    · rfl
  | some status =>
    have hroom := Registry.held?_isSome_of_get? ((hsame rec.id).trans hget)
    simp only [Registry.get?_put (Registry.find_coherent hc secret) (.inl hroom), hsame, hget,
      Option.map_some, Option.getD_some]

theorem step_target_size (hc : Registry.Coherent s.registry.tables) {op : Op} {id : String}
    (h : (s.step p op).target? = some id) :
    (s.step p op).after.registry.size = s.registry.size := by
  obtain ⟨secret, rec, hf, rfl, hafter⟩ := step_target_registry p s h
  have hsize := Registry.size_find hc.keys secret
  rw [hafter]
  cases (s.step p op).returned? with
  | none => exact hsize
  | some status =>
    have hget := (Registry.get?_find hc.keys secret rec.id).trans (Registry.get?_of_find hc hf)
    have hroom := Registry.held?_isSome_of_get? hget
    exact (Registry.size_put_held (Registry.find_coherent hc secret) hroom _ _).trans hsize

/-- A step that opens an intent puts it on record, and resolves to nothing. -/
theorem step_opened_registry {op : Op} {i : Intent} (h : (s.step p op).opened? p = some i) :
    (s.step p op).after.registry = s.registry.put i.id i.status i.clientSecret ∧
      (s.step p op).target? = none := by
  cases op with
  | confirm publish req => simp [Session.step, Step.opened?] at h
  | registry change => simp [Session.step, Step.opened?] at h
  | create publish req => exact ⟨(create_some publish s.registry h).2, rfl⟩

/-- A request that neither opens an intent nor resolves to one leaves the
registry alone. -/
theorem step_registry_same (hc : Registry.Coherent s.registry.tables) {op : Op}
    (hop : op.isRequest = true) (ho : (s.step p op).opened? p = none)
    (ht : (s.step p op).target? = none) : (s.step p op).after.registry = s.registry := by
  cases op with
  | registry change => cases hop
  | create publish req => exact (create_none publish s.registry ho).2
  | confirm publish req =>
    by_cases hs : req.clientSecret = ""
    · simp only [Session.step, confirm_empty p publish _ s.remote hs]
    · have hf : (s.registry.find req.clientSecret).1 = none := Option.map_eq_none_iff.mp ht
      simp only [Session.step, confirm_unresolved p publish s.remote hs hf,
        Registry.find_none hc hf]

/-- A step that resolves to no id and creates nothing leaves the provider
alone. -/
theorem step_remote_of_not_target {op : Op} (h : (s.step p op).target? = none)
    (hc : ∀ publish req, op ≠ .create publish req) :
    (s.step p op).after.remote = s.remote := by
  cases op with
  | create publish req => exact absurd rfl (hc publish req)
  | registry change => rfl
  | confirm publish req =>
    by_cases hs : req.clientSecret = ""
    · simp only [Session.step, confirm_empty p publish _ s.remote hs]
    · have hf : (s.registry.find req.clientSecret).1 = none := Option.map_eq_none_iff.mp h
      simp only [Session.step, confirm_unresolved p publish s.remote hs hf]

/-! ### The registry of a session -/

/-- To the registry a step is a run of registry operations: a creation puts, a
confirmation finds and then may put. -/
theorem step_registry (op : Op) :
    ∃ changes, (s.step p op).after.registry = s.registry.run changes := by
  cases op with
  | create publish req =>
    cases h : opened? p s.remote req with
    | none => exact ⟨[], (create_none publish s.registry h).2⟩
    | some i =>
      exact ⟨[.put i.id i.status i.clientSecret], (create_some publish s.registry h).2⟩
  | confirm publish req =>
    by_cases hs : req.clientSecret = ""
    · refine ⟨[], ?_⟩
      simp only [Session.step, confirm_empty p publish _ s.remote hs]
      rfl
    cases hf : (s.registry.find req.clientSecret).1 with
    | none =>
      refine ⟨[.find req.clientSecret], ?_⟩
      simp only [Session.step, confirm_unresolved p publish s.remote hs hf]
      rfl
    | some rec =>
      rcases confirm_registry p publish s.remote hf with hfound | ⟨status, hput⟩
      · exact ⟨[.find req.clientSecret], hfound⟩
      · exact ⟨[.find req.clientSecret, .put rec.id status rec.clientSecret], hput⟩
  | registry change => exact ⟨[change], rfl⟩

theorem step_bounds (op : Op) :
    (s.step p op).after.registry.capacity = s.registry.capacity ∧
      (s.step p op).after.registry.ttl = s.registry.ttl := by
  obtain ⟨changes, h⟩ := step_registry p s op
  rw [h]
  exact Registry.run_bounds changes s.registry

theorem run_registry : ∀ (ops : List Op) (s : Session σ),
    ∃ changes, (s.run p ops).registry = s.registry.run changes
  | [], _ => ⟨[], rfl⟩
  | op :: ops, s => by
    obtain ⟨first, hfirst⟩ := step_registry p s op
    obtain ⟨rest, hrest⟩ := run_registry ops (s.step p op).after
    exact ⟨first ++ rest, hrest.trans (by rw [hfirst, Registry.run_append])⟩

/-- The registry of a session that starts empty is coherent after every run. -/
theorem run_coherent (capacity ttl : Int) (remote : σ) (ops : List Op) :
    Registry.Coherent
      ((Session.mk (Registry.new capacity ttl) remote).run p ops).registry.tables := by
  obtain ⟨changes, h⟩ := run_registry p ops ⟨Registry.new capacity ttl, remote⟩
  rw [h]
  exact Registry.coherent_run capacity ttl changes

end Runs

end Handshake
end PaymentGateway
