/-
# Requests that overlap

A request waits for the provider once or twice, and meanwhile others go on. A
desk is the registry with the requests in flight, each with all it has in hand:
a confirmation has had its record since it began and writes it back, with the
secret it had then, when the last reply arrives. An event is the beginning of a
request or a reply to one of those in flight, so a list of events is any
interleaving of any number of requests over any provider, however late it
replies. A request that nobody interrupts is the operation of `Handshake`
(`create_alone`, `confirm_alone`).

What an event can do is said once (`Turn.Does`, `turn_does`): it looks at the
registry, it puts a new intent on record, or it puts the record that a
confirmation has in hand. On a registry without bounds, and if new intents are
fresh, every record in hand is that of an intent on record (`Sound.inHand`).
So nothing is lost, secrets stay, and the status on record is that of the
request that ended last (`interleaving_keeps_records`).

Key definitions: `Handshake.Flow`, `Handshake.Desk`, `Handshake.Event`,
`Handshake.Desk.log`, `Handshake.LastSettled`, `Handshake.Sound`.
Key theorems: `Handshake.create_alone`, `Handshake.confirm_alone`,
`Handshake.turn_does`, `Handshake.run_sound`,
`Handshake.interleaving_keeps_records`.
-/
import PaymentGateway.Proofs.Handshake.Failure
import PaymentGateway.Proofs.Handshake.Resolution

namespace PaymentGateway
namespace Handshake

variable {σ : Type}

/-! ### A provider is known by its replies -/

/-- A creation sees of the provider its reply, and nothing else. -/
theorem create_replied (p : Provider σ) (publish : Publish) (r : Registry) (s : σ)
    {req : CreateRequest} {params : CreateParams} (h : accept req = .ok params) (script : Script)
    (hreply : script.create = (p.create params s).1) :
    let o := create p publish r s req
    let o' := create Script.provider publish r script req
    o'.result = o.result ∧ o'.registry = o.registry ∧ o'.trace = o.trace := by
  obtain ⟨creates, confirms, attaches⟩ := script
  subst hreply
  rcases hc : p.create params s with ⟨f | i, s'⟩ <;>
    simp [create, h, Script.provider, hc]

/-- A confirmation sees of the provider its replies to the attach, if there is
one, and to the confirmation. -/
theorem confirmRecord_replied (p : Provider σ) (publish : Publish) (r : Registry) (s : σ)
    (rec : Record) (method : String) (script : Script)
    (hattach : method ≠ "" → script.attach = (p.attach method rec.id s).1)
    (hreply : script.confirm = reply p s rec method) :
    let o := confirmRecord p publish r s rec method
    let o' := confirmRecord Script.provider publish r script rec method
    o'.result = o.result ∧ o'.registry = o.registry ∧ o'.trace = o.trace := by
  rcases ha : attach p s rec.id method with ⟨outcome, s', trace⟩
  have ha' : attach Script.provider script rec.id method = (outcome, script, trace) := by
    unfold attach at ha ⊢
    by_cases hm : method = ""
    · rw [if_pos hm] at ha ⊢
      cases ha
      rfl
    · rw [if_neg hm] at ha ⊢
      cases ha
      simp only [Script.provider, hattach hm]
  have hasked : script.confirm = (p.confirm rec.id method s').1 := by
    simp [hreply, reply, attached, ha]
  have hgiven : Script.provider.confirm rec.id method script = (script.confirm, script) := rfl
  rcases hc : p.confirm rec.id method s' with ⟨f | i, s''⟩ <;>
    rw [hc] at hasked <;>
    simp [confirmRecord, ha, ha', hc, hgiven, hasked]

/-! ### Requests in flight -/

/-- A request that waits for the provider, with what it has in hand: a creation
for its reply, a confirmation for that to the attach or, with the answer to the
attach in hand, for that to the confirmation. -/
inductive Flow where
  | creating (publish : Publish) (req : CreateRequest) (params : CreateParams)
    (accepted : accept req = .ok params)
  | attaching (publish : Publish) (rec : Record) (method : String)
  | confirming (publish : Publish) (rec : Record) (method : String) (attach : Option Fault)

/-- The record that a confirmation has in hand. -/
def Flow.record? : Flow → Option Record
  | creating .. => none
  | attaching _ rec _ => some rec
  | confirming _ rec _ _ => some rec

/-- A confirmation that has just found its record. Without a method there is
nothing to attach. -/
def Flow.found (publish : Publish) (rec : Record) (method : String) : Flow :=
  if method = "" then .confirming publish rec method none else .attaching publish rec method

/-- The registry and the requests in flight. -/
structure Desk where
  registry : Registry
  flows : List Flow

/-- A creation begins, a confirmation begins, or the provider replies to the
request at a place among those in flight: of the script it is given the reply
it waits for. -/
inductive Event where
  | create (publish : Publish) (req : CreateRequest)
  | confirm (publish : Publish) (req : ConfirmRequest)
  | reply (place : Nat) (script : Script)

/-- An event, the desk before and after it, and the answer to the request that
ends with it, if one does. -/
structure Turn where
  before : Desk
  event : Event
  answer : Option Answer
  after : Desk

namespace Desk

/-- What a reply does to the request that waits for it, the one at a place. -/
def resume (d : Desk) (place : Nat) (script : Script) : Flow → Option Answer × Desk
  | .creating publish req _ _ =>
    let o := Handshake.create Script.provider publish d.registry script req
    (some (.created o.result o.trace), ⟨o.registry, d.flows.eraseIdx place⟩)
  | .attaching publish rec method =>
    (none, ⟨d.registry, d.flows.set place (.confirming publish rec method script.attach)⟩)
  | .confirming publish rec method answer =>
    let o := confirmRecord Script.provider publish d.registry { script with attach := answer }
      rec method
    (some (.confirmed o.result o.trace), ⟨o.registry, d.flows.eraseIdx place⟩)

/-- What an event does: the answer to the request that ends with it, if one
does, and the desk after it. -/
def handle (d : Desk) : Event → Option Answer × Desk
  | .create publish req =>
    match h : accept req with
    | .error f => (some (.created (.error f) .empty), d)
    | .ok params => (none, { d with flows := d.flows ++ [.creating publish req params h] })
  | .confirm publish req =>
    match resolve d.registry req with
    | (.error f, r) => (some (.confirmed (.error f) .empty), ⟨r, d.flows⟩)
    | (.ok rec, r) => (none, ⟨r, d.flows ++ [.found publish rec (Text.trim req.paymentMethod)]⟩)
  | .reply place script =>
    match d.flows[place]? with
    | some flow => d.resume place script flow
    | none => (none, d)

/-- One event at a desk. -/
def turn (d : Desk) (e : Event) : Turn := ⟨d, e, (d.handle e).1, (d.handle e).2⟩

/-- The desk after a list of events. -/
def run (d : Desk) (events : List Event) : Desk := events.foldl (fun d e => (d.turn e).after) d

/-- The turns of a list of events. -/
def log : Desk → List Event → List Turn
  | _, [] => []
  | d, e :: events => d.turn e :: log (d.turn e).after events

/-- A desk with nothing on record, for any number of records and for all time. -/
def empty : Desk := ⟨Registry.new 0 0, []⟩

theorem handle_create_error (d : Desk) (publish : Publish) {req : CreateRequest} {f : Fault}
    (h : accept req = .error f) :
    d.handle (.create publish req) = (some (.created (.error f) .empty), d) := by
  simp only [handle]
  split
  · rename_i g hg
    rw [h] at hg
    cases hg
    rfl
  · rename_i params hp
    rw [h] at hp
    cases hp

theorem handle_create_ok (d : Desk) (publish : Publish) {req : CreateRequest}
    {params : CreateParams} (h : accept req = .ok params) :
    d.handle (.create publish req) =
      (none, { d with flows := d.flows ++ [.creating publish req params h] }) := by
  simp only [handle]
  split
  · rename_i f hf
    rw [h] at hf
    cases hf
  · rename_i params' hp
    rw [h] at hp
    cases hp
    rfl

theorem run_snoc (d : Desk) (events : List Event) (e : Event) :
    d.run (events ++ [e]) = ((d.run events).turn e).after :=
  List.foldl_append

/-- A turn of a log is that of its event, after the events before it. -/
theorem mem_log : ∀ (events : List Event) (d : Desk) {t : Turn}, t ∈ d.log events →
    ∃ before e after, events = before ++ e :: after ∧ t = (d.run before).turn e
  | [], _, _, h => by cases h
  | e :: events, d, t, h => by
    rcases List.mem_cons.mp h with rfl | h
    · exact ⟨[], e, events, rfl, rfl⟩
    · obtain ⟨before, x, after, rfl, rfl⟩ := mem_log events (d.turn e).after h
      exact ⟨e :: before, x, after, rfl, rfl⟩

theorem log_append : ∀ (d : Desk) (events more : List Event),
    d.log (events ++ more) = d.log events ++ (d.run events).log more
  | _, [], _ => rfl
  | d, e :: events, more => congrArg (d.turn e :: ·) (log_append (d.turn e).after events more)

end Desk

/-- Whether a request ends well with this turn. -/
def Turn.succeeds (t : Turn) : Bool :=
  match t.answer with
  | some (.created (.ok _) _) => true
  | some (.confirmed (.ok _) _) => true
  | _ => false

/-- The intent that a creation which ends with this turn was given by the
provider, if it ends well. -/
def Turn.opened? (t : Turn) : Option Intent :=
  match t.event, t.answer with
  | .reply _ script, some (.created (.ok _) _) => script.create.toOption
  | _, _ => none

/-- The secret that a creation which ends with this turn returns, if it ends
well. -/
def Turn.issued? (t : Turn) : Option String :=
  match t.answer with
  | some (.created (.ok c) _) => some c.clientSecret
  | _ => none

/-- The id that a request which ends with this turn was about and the status in
the provider's reply, if it ends well. -/
def Turn.settled? (t : Turn) : Option (String × String) :=
  match t.event, t.answer with
  | .reply _ script, some (.created (.ok _) _) =>
    script.create.toOption.map fun i => (i.id, i.status)
  | .reply place script, some (.confirmed (.ok _) _) => do
    let flow ← t.before.flows[place]?
    let rec ← flow.record?
    let i ← script.confirm.toOption
    return (rec.id, i.status)
  | _, _ => none

/-- Only a request that ends well opens, issues or settles anything. -/
theorem Turn.eq_none_of_not_succeeds {t : Turn} (h : t.succeeds = false) :
    t.opened? = none ∧ t.issued? = none ∧ t.settled? = none := by
  obtain ⟨before, event, answer, after⟩ := t
  unfold succeeds at h
  split at h
  · cases h
  · cases h
  · rename_i hcreated hconfirmed
    unfold opened? issued? settled?
    refine ⟨?_, ?_, ?_⟩ <;> split <;> simp_all

/-! ### A request that is not interrupted -/

/-- The answers that the turns of a list of events give. -/
def Desk.answers (d : Desk) (events : List Event) : List Answer :=
  (d.log events).filterMap Turn.answer

/-- A creation that is replied to at once is `create`. -/
theorem create_alone (p : Provider σ) (publish : Publish) (r : Registry) (s : σ)
    {req : CreateRequest} {params : CreateParams} (h : accept req = .ok params) (script : Script)
    (hreply : script.create = (p.create params s).1) :
    let o := create p publish r s req
    let events : List Event := [.create publish req, .reply 0 script]
    Desk.answers ⟨r, []⟩ events = [.created o.result o.trace] ∧
      Desk.run ⟨r, []⟩ events = ⟨o.registry, []⟩ := by
  intro o events
  obtain ⟨hresult, hregistry, htrace⟩ := create_replied p publish r s h script hreply
  have hbegin := Desk.handle_create_ok ⟨r, []⟩ publish h
  have hend : Desk.handle ⟨r, [.creating publish req params h]⟩ (.reply 0 script) =
      (some (.created o.result o.trace), ⟨o.registry, []⟩) := by
    simp only [Desk.handle, List.getElem?_cons_zero, Desk.resume, hresult, htrace, hregistry,
      List.eraseIdx_cons_zero, o]
  simp only [Desk.answers, Desk.log, Desk.run, Desk.turn, events, List.foldl_cons, List.foldl_nil,
    List.nil_append, hbegin, hend, List.filterMap_cons, List.filterMap_nil, and_self]

/-- A confirmation that finds its record and is replied to at once is
`confirm`. -/
theorem confirm_alone (p : Provider σ) (publish : Publish) (r : Registry) (s : σ)
    {req : ConfirmRequest} {rec : Record} (h : (r.find req.clientSecret).1 = some rec)
    (script : Script)
    (hattach : script.attach = (p.attach (Text.trim req.paymentMethod) rec.id s).1)
    (hreply : script.confirm = reply p s rec (Text.trim req.paymentMethod)) :
    let o := confirm p publish r s req
    let events : List Event := .confirm publish req ::
      ((if Text.trim req.paymentMethod = "" then [] else [.reply 0 script]) ++ [.reply 0 script])
    Desk.answers ⟨r, []⟩ events = [.confirmed o.result o.trace] ∧
      Desk.run ⟨r, []⟩ events = ⟨o.registry, []⟩ := by
  intro o events
  have ho : o = confirmRecord p publish (r.find req.clientSecret).2 s rec
      (Text.trim req.paymentMethod) := confirm_resolved p publish s h
  have hresolve : resolve r req = (.ok rec, (r.find req.clientSecret).2) := by
    have hs : req.clientSecret ≠ "" := by
      intro h0
      rw [h0, find_empty] at h
      cases h
    rcases hf : r.find req.clientSecret with ⟨found, r'⟩
    rw [hf] at h
    cases h
    simp [resolve, hs, hf]
  have hbegin : Desk.handle ⟨r, []⟩ (.confirm publish req) =
      (none, ⟨(r.find req.clientSecret).2,
        [.found publish rec (Text.trim req.paymentMethod)]⟩) := by
    simp only [Desk.handle, hresolve, List.nil_append]
  have hend : ∀ answer, (Text.trim req.paymentMethod ≠ "" → answer = script.attach) →
      Desk.handle ⟨(r.find req.clientSecret).2,
        [.confirming publish rec (Text.trim req.paymentMethod) answer]⟩ (.reply 0 script) =
      (some (.confirmed o.result o.trace), ⟨o.registry, []⟩) := by
    intro answer hanswer
    obtain ⟨hresult, hregistry, htrace⟩ := confirmRecord_replied p publish
      (r.find req.clientSecret).2 s rec (Text.trim req.paymentMethod)
      { script with attach := answer } (fun hm => (hanswer hm).trans hattach) hreply
    simp only [Desk.handle, List.getElem?_cons_zero, Desk.resume, hresult, htrace, hregistry, ho,
      List.eraseIdx_cons_zero]
  by_cases hm : Text.trim req.paymentMethod = ""
  · have hlast := hend none (fun hne => absurd hm hne)
    simp only [Desk.answers, Desk.log, Desk.run, Desk.turn, events, Flow.found, hm, ↓reduceIte,
      List.nil_append, List.foldl_cons, List.foldl_nil, hbegin, List.filterMap_cons,
      List.filterMap_nil] at hlast ⊢
    simp only [hlast, and_self]
  · have hmiddle : Desk.handle ⟨(r.find req.clientSecret).2,
        [.attaching publish rec (Text.trim req.paymentMethod)]⟩ (.reply 0 script) =
        (none, ⟨(r.find req.clientSecret).2,
          [.confirming publish rec (Text.trim req.paymentMethod) script.attach]⟩) := rfl
    have hlast := hend script.attach (fun _ => rfl)
    simp only [Desk.answers, Desk.log, Desk.run, Desk.turn, events, Flow.found, hm, ↓reduceIte,
      List.cons_append, List.nil_append, List.foldl_cons, List.foldl_nil, hbegin, hmiddle, hlast,
      List.filterMap_cons, List.filterMap_nil, and_self]

/-! ### What an event can do -/

/-- **What a turn can do**: look a record up at most, which a confirmation may
then have in hand, put a new intent on record, or put the record that a
confirmation had in hand with another status. -/
inductive Turn.Does (t : Turn) : Prop where
  | looks (secret : String) (fails : t.succeeds = false)
    (registry : t.after.registry = (t.before.registry.find secret).2)
    (inHand : ∀ f ∈ t.after.flows, ∀ rec, f.record? = some rec →
      (∃ g ∈ t.before.flows, g.record? = some rec) ∨
        (t.before.registry.find secret).1 = some rec)
  | opens (i : Intent) (opened : t.opened? = some i) (issued : t.issued? = some i.clientSecret)
    (settled : t.settled? = some (i.id, i.status))
    (registry : t.after.registry = t.before.registry.put i.id i.status i.clientSecret)
    (inHand : t.after.flows ⊆ t.before.flows)
  | confirms (rec : Record) (status : String) (held : ∃ f ∈ t.before.flows, f.record? = some rec)
    (opened : t.opened? = none) (issued : t.issued? = none)
    (settled : t.settled? = some (rec.id, status))
    (registry : t.after.registry = t.before.registry.put rec.id status rec.clientSecret)
    (inHand : t.after.flows ⊆ t.before.flows)

namespace Turn.Does

/-- A turn that does not touch the registry, and after which nothing is in hand
that was not so before. -/
theorem idle {t : Turn} (fails : t.succeeds = false)
    (registry : t.after.registry = t.before.registry)
    (inHand : ∀ f ∈ t.after.flows, ∀ rec, f.record? = some rec →
      ∃ g ∈ t.before.flows, g.record? = some rec) : t.Does :=
  .looks "" fails (by rw [registry, find_empty])
    fun f hf rec hrec => .inl (inHand f hf rec hrec)

end Turn.Does

section Turns

variable (d : Desk)

theorem turn_create_does (publish : Publish) (req : CreateRequest) :
    (d.turn (.create publish req)).Does := by
  cases ha : accept req with
  | error f =>
    have hd := d.handle_create_error publish ha
    refine .idle ?_ ?_ ?_ <;> simp only [Desk.turn, hd]
    · rfl
    · exact fun f hf rec hrec => ⟨f, hf, hrec⟩
  | ok params =>
    have hd := d.handle_create_ok publish ha
    refine .idle ?_ ?_ ?_ <;> simp only [Desk.turn, hd]
    · rfl
    · intro f hf rec hrec
      rcases List.mem_append.mp hf with hf | hf
      · exact ⟨f, hf, hrec⟩
      · rw [List.mem_singleton.mp hf] at hrec
        cases hrec

theorem Flow.record?_found (publish : Publish) (rec : Record) (method : String) :
    (Flow.found publish rec method).record? = some rec := by
  unfold Flow.found
  split <;> rfl

theorem turn_confirm_does (publish : Publish) (req : ConfirmRequest) :
    (d.turn (.confirm publish req)).Does := by
  have hkeep : ∀ f ∈ d.flows, ∀ rec, f.record? = some rec →
      ∃ g ∈ d.flows, g.record? = some rec := fun f hf rec hrec => ⟨f, hf, hrec⟩
  by_cases hs : req.clientSecret = ""
  · have hd : d.handle (.confirm publish req) =
        (some (.confirmed (.error (.invalid secretMessage)) .empty), d) := by
      simp only [Desk.handle, resolve, hs, ↓reduceIte]
    refine .idle ?_ ?_ ?_ <;> simp only [Desk.turn, hd]
    · rfl
    · exact hkeep
  rcases hf : d.registry.find req.clientSecret with ⟨_ | rec, r⟩
  · have hd : d.handle (.confirm publish req) =
        (some (.confirmed (.error .notFound) .empty), ⟨r, d.flows⟩) := by
      simp only [Desk.handle, resolve, hs, ↓reduceIte, hf]
    refine .looks req.clientSecret ?_ ?_ ?_ <;> simp only [Desk.turn, hd, hf]
    · rfl
    · exact fun f hmem rec hrec => .inl (hkeep f hmem rec hrec)
  · have hd : d.handle (.confirm publish req) =
        (none, ⟨r, d.flows ++ [.found publish rec (Text.trim req.paymentMethod)]⟩) := by
      simp only [Desk.handle, resolve, hs, ↓reduceIte, hf]
    refine .looks req.clientSecret ?_ ?_ ?_ <;> simp only [Desk.turn, hd, hf]
    · rfl
    · intro f hmem rec' hrec
      rcases List.mem_append.mp hmem with hmem | hmem
      · exact .inl (hkeep f hmem rec' hrec)
      · rw [List.mem_singleton.mp hmem, Flow.record?_found] at hrec
        exact .inr hrec

variable {place : Nat} (script : Script)

theorem turn_created_does {publish : Publish} {req : CreateRequest} {params : CreateParams}
    {accepted : accept req = .ok params}
    (hflow : d.flows[place]? = some (.creating publish req params accepted)) :
    (d.turn (.reply place script)).Does := by
  have hopened : opened? Script.provider script req = script.create.toOption := by
    simp [opened?, accepted, Script.provider]
  have hd : d.handle (.reply place script) =
      d.resume place script (.creating publish req params accepted) := by
    simp only [Desk.handle, hflow]
  cases hc : script.create.toOption with
  | none =>
    obtain ⟨⟨f, hresult⟩, hregistry⟩ := create_none publish d.registry (hopened.trans hc)
    refine .idle ?_ ?_ ?_ <;> simp only [Desk.turn, hd, Desk.resume, hresult, hregistry]
    · rfl
    · exact fun f hf rec hrec => ⟨f, List.mem_of_mem_eraseIdx hf, hrec⟩
  | some i =>
    obtain ⟨hresult, hregistry⟩ := create_some publish d.registry (hopened.trans hc)
    refine .opens i ?_ ?_ ?_ ?_ ?_ <;> simp only [Desk.turn, hd, Desk.resume, hresult, hregistry]
    · exact hc
    · rfl
    · simp only [Turn.settled?, hc, Option.map_some]
    · exact fun f hf => List.mem_of_mem_eraseIdx hf

theorem turn_attached_does {publish : Publish} {rec : Record} {method : String}
    (hflow : d.flows[place]? = some (.attaching publish rec method)) :
    (d.turn (.reply place script)).Does := by
  have hd : d.handle (.reply place script) =
      (none, ⟨d.registry, d.flows.set place (.confirming publish rec method script.attach)⟩) := by
    simp only [Desk.handle, hflow, Desk.resume]
  refine .idle ?_ ?_ ?_ <;> simp only [Desk.turn, hd]
  · rfl
  · intro f hf rec' hrec
    -- the record in hand stays the same while the confirmation goes on
    rcases List.mem_or_eq_of_mem_set hf with hf | rfl
    · exact ⟨f, hf, hrec⟩
    · exact ⟨_, List.mem_of_getElem? hflow, hrec⟩

theorem turn_confirmed_does {publish : Publish} {rec : Record} {method : String}
    {answer : Option Fault}
    (hflow : d.flows[place]? = some (.confirming publish rec method answer)) :
    (d.turn (.reply place script)).Does := by
  have hd : d.handle (.reply place script) =
      d.resume place script (.confirming publish rec method answer) := by
    simp only [Desk.handle, hflow]
  have hreply : reply Script.provider { script with attach := answer } rec method =
      script.confirm := by
    have hstate : attached Script.provider { script with attach := answer } rec method =
        { script with attach := answer } := by
      rw [attached_eq]
      split <;> rfl
    rw [reply, hstate]
    rfl
  cases hc : script.confirm with
  | error f =>
    obtain ⟨hresult, hregistry⟩ :=
      confirmRecord_error Script.provider publish d.registry _ rec method (hreply.trans hc)
    refine .idle ?_ ?_ ?_ <;> simp only [Desk.turn, hd, Desk.resume, hresult, hregistry]
    · rfl
    · exact fun f hf rec hrec => ⟨f, List.mem_of_mem_eraseIdx hf, hrec⟩
  | ok i =>
    obtain ⟨hresult, hregistry⟩ :=
      confirmRecord_ok Script.provider publish d.registry _ rec method (hreply.trans hc)
    refine .confirms rec i.status ⟨_, List.mem_of_getElem? hflow, rfl⟩ ?_ ?_ ?_ ?_ ?_ <;>
      simp only [Desk.turn, hd, Desk.resume, hresult, hregistry]
    · rfl
    · rfl
    · simp [Turn.settled?, hflow, Flow.record?, hc, Except.toOption]
    · exact fun f hf => List.mem_of_mem_eraseIdx hf

/-- **Every turn does one of the three.** -/
theorem turn_does (e : Event) : (d.turn e).Does := by
  cases e with
  | create publish req => exact turn_create_does d publish req
  | confirm publish req => exact turn_confirm_does d publish req
  | reply place script =>
    cases hflow : d.flows[place]? with
    | none =>
      have hd : d.handle (.reply place script) = (none, d) := by
        simp only [Desk.handle, hflow]
      refine .idle ?_ ?_ ?_ <;> simp only [Desk.turn, hd]
      · rfl
      · exact fun f hf rec hrec => ⟨f, hf, hrec⟩
    | some flow =>
      cases flow with
      | creating publish req params accepted => exact turn_created_does d script hflow
      | attaching publish rec method => exact turn_attached_does d script hflow
      | confirming publish rec method answer => exact turn_confirmed_does d script hflow

end Turns

/-! ### What every interleaving keeps -/

/-- The intents that the creations of a log were given, in the order in which
they ended. -/
def openedIn (log : List Turn) : List Intent := log.filterMap Turn.opened?

/-- The last request about an id that ended well, of those in a log, had this
status in its reply. -/
def LastSettled (log : List Turn) (id status : String) : Prop :=
  ∃ before t after, log = before ++ t :: after ∧ t.settled? = some (id, status) ∧
    ∀ u ∈ after, ∀ other, u.settled? ≠ some (id, other)

theorem LastSettled.new (log : List Turn) {t : Turn} {id status : String}
    (h : t.settled? = some (id, status)) : LastSettled (log ++ [t]) id status :=
  ⟨log, t, [], rfl, h, by simp⟩

theorem LastSettled.snoc {log : List Turn} {id status : String} (h : LastSettled log id status)
    {t : Turn} (ht : ∀ other, t.settled? ≠ some (id, other)) :
    LastSettled (log ++ [t]) id status := by
  obtain ⟨before, u, after, rfl, hu, hafter⟩ := h
  refine ⟨before, u, after ++ [t], by simp, hu, fun x hx => ?_⟩
  rcases List.mem_append.mp hx with hx | hx
  · exact hafter x hx
  · rw [List.mem_singleton.mp hx]
    exact ht

/-- A desk after the turns of a log: its registry knows exactly the intents
opened and holds as many records, each with the status settled last, and every
record in hand is that of an intent opened. -/
structure Sound (log : List Turn) (d : Desk) : Prop where
  built : ∃ h, Registry.Built h d.registry.tables
  knows : Knows (openedIn log) d.registry
  size : d.registry.size = (openedIn log).length
  inHand : ∀ f ∈ d.flows, ∀ rec, f.record? = some rec →
    ∃ i ∈ openedIn log, i.id = rec.id ∧ i.clientSecret = rec.clientSecret
  status : ∀ i ∈ openedIn log, ∃ status, LastSettled log i.id status ∧
    d.registry.get? i.id = some ⟨i.id, status, i.clientSecret⟩

namespace Sound

variable {log : List Turn} {t : Turn}

theorem empty : Sound [] Desk.empty where
  built := ⟨[], .empty⟩
  knows := Knows.empty
  size := rfl
  inHand := fun f hf => by cases hf
  status := fun i hi => by cases hi

theorem coherent {d : Desk} (hs : Sound log d) : Registry.Coherent d.registry.tables := by
  obtain ⟨h, hb⟩ := hs.built
  exact hb.coherent

theorem opened_none (h : t.opened? = none) : openedIn (log ++ [t]) = openedIn log := by
  simp [openedIn, h]

theorem opened_some {i : Intent} (h : t.opened? = some i) :
    openedIn (log ++ [t]) = openedIn log ++ [i] := by
  simp [openedIn, h]

/-- Looking a record up puts no other record in hand than one on record. -/
theorem looked (hs : Sound log t.before) {secret : String} (fails : t.succeeds = false)
    (registry : t.after.registry = (t.before.registry.find secret).2)
    (inHand : ∀ f ∈ t.after.flows, ∀ rec, f.record? = some rec →
      (∃ g ∈ t.before.flows, g.record? = some rec) ∨
        (t.before.registry.find secret).1 = some rec) :
    Sound (log ++ [t]) t.after := by
  have hc := hs.coherent
  obtain ⟨hopened, -, hsettled⟩ := Turn.eq_none_of_not_succeeds fails
  obtain ⟨h, hb⟩ := hs.built
  obtain ⟨es, hp, ht⟩ := Registry.find_tables hc.keys secret
  constructor
  · rw [registry, ht]
    exact ⟨h, hb.reorder hp⟩
  · rw [registry, opened_none hopened]
    exact hs.knows.find hc secret
  · rw [registry, opened_none hopened, Registry.size_find hc.keys, hs.size]
  · intro f hf rec hrec
    rw [opened_none hopened]
    rcases inHand f hf rec hrec with ⟨g, hg, hrec⟩ | hfound
    · exact hs.inHand g hg rec hrec
    · obtain ⟨i, hi, hid, hsecret, hown⟩ := hs.knows.known_of_find hc hfound
      exact ⟨i, hi, hid, hsecret.trans hown.symm⟩
  · intro i hi
    rw [opened_none hopened] at hi
    obtain ⟨status, hlast, hget⟩ := hs.status i hi
    refine ⟨status, hlast.snoc fun other => by rw [hsettled]; simp, ?_⟩
    rw [registry, Registry.get?_find hc.keys, hget]

/-- A new intent comes on record beside the others. -/
theorem opened (hs : Sound log t.before) {i : Intent} (opens : t.opened? = some i)
    (settled : t.settled? = some (i.id, i.status))
    (registry : t.after.registry = t.before.registry.put i.id i.status i.clientSecret)
    (inHand : t.after.flows ⊆ t.before.flows) (fresh : Fresh (openedIn (log ++ [t]))) :
    Sound (log ++ [t]) t.after := by
  have hc := hs.coherent
  obtain ⟨h, hb⟩ := hs.built
  rw [opened_some opens] at fresh
  have hnew := fresh.new
  have hroom : (t.before.registry.held? i.id).isSome ∨ ¬ t.before.registry.Full :=
    .inr hs.knows.not_full
  have hget := Registry.get?_put hc hroom i.status i.clientSecret
  have hfree : t.before.registry.held? i.id = none := by
    have hid := hs.knows.byId i.id
    cases hh : t.before.registry.held? i.id with
    | none => rfl
    | some e =>
      obtain ⟨j, hj, hji, -⟩ := (hid e.record.clientSecret).mp (by rw [hc.byId_eq, hh]; rfl)
      exact absurd hji (hnew j hj).1
  constructor
  · rw [registry]
    exact ⟨_, Registry.put_built hb i.id i.status i.clientSecret⟩
  · rw [registry, opened_some opens]
    exact hs.knows.put_new hc hnew i.status
  · rw [registry, opened_some opens, Registry.size_put_new hc hfree hs.knows.not_full, hs.size,
      List.length_append, List.length_singleton]
  · intro f hf rec hrec
    obtain ⟨j, hj, hown⟩ := hs.inHand f (inHand hf) rec hrec
    rw [opened_some opens]
    exact ⟨j, List.mem_append_left _ hj, hown⟩
  · intro j hj
    rw [opened_some opens] at hj
    rw [registry, hget]
    rcases List.mem_append.mp hj with hj | hj
    · have hne := (hnew j hj).1
      obtain ⟨status, hlast, hold⟩ := hs.status j hj
      refine ⟨status, hlast.snoc fun other hother => ?_, by rw [if_neg hne, hold]⟩
      rw [settled] at hother
      exact hne (Prod.mk.inj (Option.some.inj hother)).1.symm
    · rw [List.mem_singleton.mp hj]
      exact ⟨i.status, .new log settled, if_pos rfl⟩

/-- A confirmation writes back the record it had in hand. That is the record of
an intent opened, so its secret is the one on record still, and only the status
changes. -/
theorem confirmed (hs : Sound log t.before) {rec : Record} {status : String}
    (held : ∃ f ∈ t.before.flows, f.record? = some rec) (opens : t.opened? = none)
    (settled : t.settled? = some (rec.id, status))
    (registry : t.after.registry = t.before.registry.put rec.id status rec.clientSecret)
    (inHand : t.after.flows ⊆ t.before.flows) : Sound (log ++ [t]) t.after := by
  have hc := hs.coherent
  obtain ⟨h, hb⟩ := hs.built
  obtain ⟨f, hf, hrec⟩ := held
  obtain ⟨i, hi, hid, hsecret⟩ := hs.inHand f hf rec hrec
  rw [← hid] at settled
  rw [← hid, ← hsecret] at registry
  have hroom : (t.before.registry.held? i.id).isSome ∨ ¬ t.before.registry.Full :=
    .inr hs.knows.not_full
  have hget := Registry.get?_put hc hroom status i.clientSecret
  obtain ⟨old, -, hold⟩ := hs.status i hi
  constructor
  · rw [registry]
    exact ⟨_, Registry.put_built hb i.id status i.clientSecret⟩
  · rw [registry, opened_none opens]
    exact hs.knows.put_known hc hi status
  · rw [registry, opened_none opens,
      Registry.size_put_held hc (Registry.held?_isSome_of_get? hold), hs.size]
  · intro g hg rec' hrec'
    rw [opened_none opens]
    exact hs.inHand g (inHand hg) rec' hrec'
  · intro j hj
    rw [opened_none opens] at hj
    rw [registry, hget]
    by_cases hji : j.id = i.id
    · -- there is one intent with this id, so the put keeps its secret
      obtain ⟨was, -, hwas⟩ := hs.status j hj
      rw [hji, hold] at hwas
      obtain ⟨-, -, hsame⟩ := Record.mk.inj (Option.some.inj hwas)
      rw [if_pos hji, hji, hsame]
      exact ⟨status, .new log settled, rfl⟩
    · obtain ⟨was, hlast, hwas⟩ := hs.status j hj
      refine ⟨was, hlast.snoc fun other hother => ?_, by rw [if_neg hji, hwas]⟩
      rw [settled] at hother
      exact hji (Prod.mk.inj (Option.some.inj hother)).1.symm

/-- **Every turn keeps the desk sound**, provided a new intent is fresh. -/
theorem turn {d : Desk} (hs : Sound log d) (e : Event)
    (fresh : Fresh (openedIn (log ++ [d.turn e]))) : Sound (log ++ [d.turn e]) (d.turn e).after := by
  have hs' : Sound log (d.turn e).before := hs
  cases turn_does d e with
  | looks secret fails registry inHand => exact hs'.looked fails registry inHand
  | opens i opened issued settled registry inHand =>
    exact hs'.opened opened settled registry inHand fresh
  | confirms rec status held opened issued settled registry inHand =>
    exact hs'.confirmed held opened settled registry inHand

end Sound

theorem fresh_left {log more : List Turn} (h : Fresh (openedIn (log ++ more))) :
    Fresh (openedIn log) := by
  rw [openedIn, List.filterMap_append] at h
  exact h.left

/-- **Every interleaving leads to a sound desk**, if the new intents are
fresh. -/
theorem run_sound (events : List Event) (fresh : Fresh (openedIn (Desk.empty.log events))) :
    Sound (Desk.empty.log events) (Desk.empty.run events) := by
  induction events using List.reverseRecOn with
  | nil => exact Sound.empty
  | append_singleton events e ih =>
    rw [Desk.log_append] at fresh ⊢
    rw [Desk.run_snoc]
    exact (ih (fresh_left fresh)).turn e fresh

/-- The secrets that the creations of a log returned are those that the
provider gave. -/
theorem issued_eq_opened : ∀ (d : Desk) (events : List Event),
    (d.log events).filterMap Turn.issued? =
      (openedIn (d.log events)).map (·.clientSecret)
  | _, [] => rfl
  | d, e :: events => by
    have ih := issued_eq_opened (d.turn e).after events
    have hsame : (d.turn e).issued? = (d.turn e).opened?.map (·.clientSecret) := by
      cases turn_does d e with
      | looks secret fails _ _ =>
        obtain ⟨hopened, hissued, -⟩ := Turn.eq_none_of_not_succeeds fails
        rw [hopened, hissued, Option.map_none]
      | opens i opened issued _ _ _ => rw [opened, issued, Option.map_some]
      | confirms rec status _ opened issued _ _ _ => rw [opened, issued, Option.map_none]
    simp only [openedIn, Desk.log, List.filterMap_cons, hsame] at ih ⊢
    cases (d.turn e).opened? with
    | none => exact ih
    | some i => exact congrArg (i.clientSecret :: ·) ih

/-- A turn with which no request ends well disturbs no record. -/
theorem turn_undisturbed {d : Desk} (hc : Registry.Coherent d.registry.tables) (e : Event)
    (h : (d.turn e).succeeds = false) :
    ∃ secret, d.registry.Undisturbed secret (d.turn e).after.registry := by
  obtain ⟨hopened, -, hsettled⟩ := Turn.eq_none_of_not_succeeds h
  cases turn_does d e with
  | looks secret _ registry _ =>
    rw [registry]
    exact ⟨secret, Registry.find_undisturbed hc secret⟩
  | opens i opened _ _ _ _ =>
    rw [hopened] at opened
    cases opened
  | confirms rec status _ _ _ settled _ _ =>
    rw [hsettled] at settled
    cases settled

/-- **Requests that overlap lose nothing**, however they are interleaved and
whatever the provider replies, on a registry without bounds and if the intents
that the provider opens have distinct ids and distinct secrets. Every creation
that returned a secret has its intent on record with that secret, which still
leads to it, and the status on record is that of the last reply with which a
request about the intent ended well. There is no other record and none twice,
and a turn with which no request ends well, so each turn of a request that
fails, disturbs nothing. -/
theorem interleaving_keeps_records (events : List Event)
    (fresh : Fresh (openedIn (Desk.empty.log events)))
    (named : ∀ i ∈ openedIn (Desk.empty.log events), i.clientSecret ≠ "") :
    let log := Desk.empty.log events
    let r := (Desk.empty.run events).registry
    log.filterMap Turn.issued? = (openedIn log).map (·.clientSecret) ∧
    (∀ i ∈ openedIn log, ∃ status, LastSettled log i.id status ∧
      r.get? i.id = some ⟨i.id, status, i.clientSecret⟩ ∧
      (r.find i.clientSecret).1 = some ⟨i.id, status, i.clientSecret⟩) ∧
    (∀ id rec, r.get? id = some rec → ∃ i ∈ openedIn log, i.id = id) ∧
    (r.entries.map (·.key)).Nodup ∧ r.size = (openedIn log).length ∧
    ∀ t ∈ log, t.succeeds = false →
      ∃ secret, t.before.registry.Undisturbed secret t.after.registry := by
  intro log r
  have hs : Sound log (Desk.empty.run events) := run_sound events fresh
  have hc := hs.coherent
  refine ⟨issued_eq_opened _ _, fun i hi => ?_, fun id rec hget => ?_, hc.keys, hs.size,
    fun t ht hfails => ?_⟩
  · obtain ⟨status, hlast, hget⟩ := hs.status i hi
    obtain ⟨found, hfind, hget'⟩ := hs.knows.find_known hc hi (named i hi)
    rw [hget'] at hget
    obtain ⟨-, rfl, -⟩ := Record.mk.inj (Option.some.inj hget)
    exact ⟨found, hlast, hget', hfind⟩
  · obtain ⟨e, hv, rfl⟩ := Option.map_eq_some_iff.mp hget
    have hh := (Registry.visible?_eq_some_iff.mp hv).1
    obtain ⟨i, hi, hid, -⟩ := (hs.knows.byId id e.record.clientSecret).mp (by
      rw [hc.byId_eq, hh]
      rfl)
    exact ⟨i, hi, hid⟩
  · obtain ⟨before, e, after, rfl, rfl⟩ := Desk.mem_log events Desk.empty ht
    rw [Desk.log_append] at fresh
    exact turn_undisturbed (run_sound before (fresh_left fresh)).coherent e hfails

/-- Two creations that end in the other order, and two confirmations of one
intent that overlap: the one that began first ends last, so it is its status
that stays. A confirmation of the other intent fails. -/
theorem interleaving_keeps_records_crossed :
    let quiet : Publish := fun _ => none
    let declined : Fault := .remote "confirm" "card_declined" "Your card was declined." 402 none
    let purchase : CreateRequest := ⟨.finite false 10 0, "usd", ""⟩
    let opens := fun (id secret : String) => Script.mk
      (.ok ⟨id, secret, Status.requiresPaymentMethod, none⟩) (.error .canceled) none
    let replies := fun (status : String) => Script.mk (.error .canceled)
      (.ok ⟨"pi_9", "s9", status, none⟩) (some .alreadyAttached)
    let events : List Event :=
      [.create quiet purchase, .create quiet purchase,
        .reply 1 (opens "pi_2" "s2"), .reply 0 (opens "pi_1" "s1"),
        .confirm quiet ⟨"s1", "pm_card_visa"⟩, .confirm quiet ⟨"s1", ""⟩,
        .reply 0 (replies Status.processing), .reply 1 (replies Status.requiresAction),
        .reply 0 (replies Status.succeeded),
        .confirm quiet ⟨"s2", ""⟩, .reply 0 ⟨.error .canceled, .error declined, none⟩]
    let log := Desk.empty.log events
    let r := (Desk.empty.run events).registry
    log.filterMap Turn.settled? =
        [("pi_2", Status.requiresPaymentMethod), ("pi_1", Status.requiresPaymentMethod),
          ("pi_1", Status.requiresAction), ("pi_1", Status.succeeded)] ∧
      r.get? "pi_1" = some ⟨"pi_1", Status.succeeded, "s1"⟩ ∧
      (∃ status, LastSettled log "pi_2" status ∧
        r.get? "pi_2" = some ⟨"pi_2", status, "s2"⟩ ∧
        (r.find "s2").1 = some ⟨"pi_2", status, "s2"⟩) ∧
      r.size = 2 := by
  intro quiet declined purchase opens replies events log r
  have hopened : openedIn log =
      [⟨"pi_2", "s2", Status.requiresPaymentMethod, none⟩,
        ⟨"pi_1", "s1", Status.requiresPaymentMethod, none⟩] := by decide +kernel
  obtain ⟨-, hkept, -, -, hsize, -⟩ :=
    interleaving_keeps_records events (by decide +kernel) (by decide +kernel)
  have hsecond := hkept ⟨"pi_2", "s2", Status.requiresPaymentMethod, none⟩ (by
    rw [hopened]
    exact List.mem_cons_self)
  rw [hopened] at hsize
  exact ⟨by decide +kernel, by decide +kernel, hsecond, hsize⟩

end Handshake
end PaymentGateway
