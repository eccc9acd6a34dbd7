/-
# What a request may change

The status of a response tells what the request may have done. Only a creation
or a confirmation that is answered with 200 changes what the registry holds,
and the provider has been asked only if the answer is 200 or 500. Whatever the
answer is, it lets pages of any origin read it.

A refusal is told from a failure by the faults found in it, so this needs a
provider whose own faults contain neither a bad field nor an unknown secret
(`Provider.Foreign`); the sandbox is one. A fault that the handshake raises
itself stands alone, before the provider is asked; a fault of the provider
comes inside `Fault.call` and is answered with 500 (`faultResponse_call`).

The states are those of a gateway that was started with an empty registry and
has answered requests and let time pass, while the provider was used by others
too (`Gateway.run`).

Key definitions: `Provider.Foreign`, `Gateway.Op`, `Gateway.run`,
`Gateway.Leads`, `Gateway.Exchange.Honest`, `Http.Response.values`.
Key theorems: `Gateway.respond_leads`, `Gateway.operate_honest`,
`Gateway.Leads.honest`, `Gateway.cors_values`, `Gateway.effects_only_on_success`.
-/
import PaymentGateway.Gateway
import PaymentGateway.Proofs.Handshake.Failure
import PaymentGateway.Proofs.Sandbox.Lifecycle

namespace PaymentGateway

/-! ### Faults of the provider -/

/-- Neither a bad field nor an unknown secret is part of the fault. -/
def Fault.isForeign (f : Fault) : Bool := f.invalid?.isNone && !f.isNotFound

theorem Fault.isForeign_iff (f : Fault) :
    f.isForeign = true ↔ f.invalid? = none ∧ f.isNotFound = false := by
  simp [isForeign]

/-- No fault of the provider is like a refusal of the handshake. -/
structure Provider.Foreign {σ : Type} (p : Provider σ) : Prop where
  create : ∀ params s f, (p.create params s).1 = .error f → f.isForeign = true
  confirm : ∀ id method s f, (p.confirm id method s).1 = .error f → f.isForeign = true

namespace Sandbox

theorem refuse?_foreign {params : CreateParams} {f : Fault} (h : refuse? params = some f) :
    f.isForeign = true := by
  unfold refuse? at h
  split at h
  · cases h
    rfl
  · split at h
    · cases h
      rfl
    · cases h

theorem confirmed_foreign {h : Holding} {m : String} {f : Fault}
    (hf : (confirmed h m).1 = .error f) : f.isForeign = true := by
  unfold confirmed at hf
  split at hf
  · cases hf
    rfl
  · cases hf

/-- The sandbox reports its own faults and no others. -/
theorem provider_foreign (ids : Nat → String) : (provider ids).Foreign where
  create params s f h := by
    have hcreate : (provider ids).create params s = Sandbox.create ids params s := rfl
    rw [hcreate] at h
    unfold Sandbox.create at h
    split at h
    · rename_i g hg
      cases h
      exact refuse?_foreign hg
    · cases h
  confirm id method s f h := by
    have hconfirm : (provider ids).confirm id method s = Sandbox.confirm id method s := rfl
    rw [hconfirm] at h
    cases hf : s.find? id with
    | none =>
      simp only [Sandbox.confirm, hf] at h
      cases h
      rfl
    | some x =>
      rcases confirm_cases hf method with ⟨-, message, hc⟩ | ⟨-, hc⟩
      · rw [hc] at h
        cases h
        rfl
      · rw [hc] at h
        exact confirmed_foreign h

end Sandbox

namespace Http

/-! ### Header fields -/

/-- The values of the fields with this name, in order. -/
def Response.values (r : Response) (name : String) : List String :=
  (r.fields.filter fun f => foldName f.1 == foldName name).map Prod.snd

/-- The names of the fields that responses have of their own. -/
def ownNames : List String :=
  ["Content-Type", "X-Content-Type-Options", "Allow", "Connection", "Location"]

/-- A response that has no fields but its own. -/
def Response.OnlyOwn (r : Response) : Prop := ∀ f ∈ r.fields, f.1 ∈ ownNames

theorem Response.json_onlyOwn (status : Nat) (v : Json) : (Response.json status v).OnlyOwn := by
  simp [OnlyOwn, json, ownNames]

theorem Response.text_onlyOwn (status : Nat) (line : String) :
    (Response.text status line).OnlyOwn := by
  simp [OnlyOwn, text, ownNames]

theorem Response.bare_onlyOwn (status : Nat) : (Response.bare status).OnlyOwn := by
  simp [OnlyOwn, bare]

theorem Redirect.response_onlyOwn (method url : String) :
    (Redirect.response method url).OnlyOwn := by
  unfold Redirect.response
  split <;> simp [Response.OnlyOwn, ownNames]

theorem Response.withFields_onlyOwn {r : Response} (h : r.OnlyOwn) {name value : String}
    (hn : name ∈ ownNames) : (r.withFields [(name, value)]).OnlyOwn :=
  List.forall_mem_cons.mpr ⟨hn, h⟩

/-- Fields put in front of a response's own alone decide the values of a name
that no response has of its own. -/
theorem Response.values_withFields {r : Response} (h : r.OnlyOwn) (fields : Fields)
    {name : String} (hn : ∀ own ∈ ownNames, foldName own ≠ foldName name) :
    (r.withFields fields).values name =
      (fields.filter fun f => foldName f.1 == foldName name).map Prod.snd := by
  have hown : r.fields.filter (fun f => foldName f.1 == foldName name) = [] := by
    rw [List.filter_eq_nil_iff]
    intro f hf
    simpa using hn f.1 (h f hf)
  simp only [values, withFields, List.filter_append, hown, List.append_nil]

namespace Route

/-- No resource answers CONNECT, so a request for one has its target as it is. -/
theorem target_of_method {req : Request} {x : Resource} (h : req.method ∈ x.methods) :
    target req = req.target := by
  refine if_neg fun hconnect => ?_
  rw [hconnect.1] at h
  cases x <;> exact absurd h (by decide)

/-- A request is led to a resource by its method and by its path. -/
theorem of_found {req : Request} {x : Resource} (h : Route.of req = .found x) :
    req.method ∈ x.methods ∧ segments? req.target = some x.segments := by
  unfold Route.of at h
  split at h
  · cases h
  · split at h
    · cases h
    · split at h
      · cases h
      · rename_i y hy
        split at h
        · rename_i hm
          cases h
          have hmethod : req.method ∈ x.methods := by simpa using hm
          rw [target_of_method hmethod] at hy
          obtain ⟨path, hpath, hfind⟩ := Option.bind_eq_some_iff.mp hy
          have hsame : x.segments = path := by simpa using List.find?_some hfind
          exact ⟨hmethod, hsame ▸ hpath⟩
        · cases h

end Route
end Http

namespace Gateway

open Http Handshake

variable {σ : Type}

/-! ### Where a request leads -/

/-- A creation or a confirmation: the requests that run an operation. -/
def isOperation (req : Request) : Prop :=
  req.method = "POST" ∧ (Route.segments? req.target = some ["payments", "process"] ∨
    Route.segments? req.target = some ["payments", "confirm"])

/-- The exchange that a request leads to: a creation, a confirmation, or a
response that changes nothing. -/
inductive Leads (b : Backend σ) (r : Registry) (s : σ) (req : Request) (x : Exchange σ) : Prop where
  | process (post : isOperation req)
    (runs : x = operate r s createdJson b.create (Body.process req.body))
  | confirm (post : isOperation req)
    (runs : x = operate r s confirmedJson b.confirm (Body.confirm req.body))
  | still (response : Response) (own : response.OnlyOwn) (keeps : x = still r s response)

theorem dispatch_leads (b : Backend σ) (counted : Bool) (r : Registry) (s : σ) (req : Request) :
    Leads b r s req (dispatch b counted r s req) := by
  cases hr : Route.of req with
  | found resource =>
    obtain ⟨hm, hpath⟩ := Route.of_found hr
    cases resource with
    | process =>
      exact .process ⟨List.mem_singleton.mp hm, .inl hpath⟩ (by simp only [dispatch, hr, serve])
    | confirm =>
      exact .confirm ⟨List.mem_singleton.mp hm, .inr hpath⟩ (by simp only [dispatch, hr, serve])
    | health =>
      exact .still _ (Response.json_onlyOwn 200 _) (by simp only [dispatch, hr, serve]; rfl)
  | moved url =>
    exact .still _ (Redirect.response_onlyOwn req.method url) (by simp only [dispatch, hr])
  | wrongMethod allowed =>
    refine .still (methodResponse allowed) ?_ (by simp only [dispatch, hr])
    exact Response.withFields_onlyOwn (Response.text_onlyOwn _ _) (by decide)
  | noTarget =>
    refine .still noTargetResponse ?_ (by simp only [dispatch, hr])
    exact Response.withFields_onlyOwn (Response.bare_onlyOwn _) (by decide)
  | unknown =>
    exact .still notFoundResponse (Response.text_onlyOwn _ _) (by simp only [dispatch, hr])

/-- A response is that of the exchange which the request leads to, with the
cross-origin fields in front. -/
theorem respond_leads (b : Backend σ) (counted : Bool) (r : Registry) (s : σ) (req : Request) :
    ∃ x, Leads b r s req x ∧ respond b counted r s req =
      { x with response := x.response.withFields (Cors.fields req) } := by
  unfold respond
  by_cases hpre : Cors.isPreflight req = true
  · exact ⟨_, .still _ (Response.bare_onlyOwn 204) rfl, by rw [if_pos hpre]; rfl⟩
  · exact ⟨_, dispatch_leads b counted r s req, by rw [if_neg hpre]⟩

/-- A request for a resource is answered by the resource: it is no preflight. -/
theorem respond_served (b : Backend σ) (counted : Bool) (r : Registry) (s : σ) {req : Request}
    {resource : Resource} (h : Route.of req = .found resource) :
    respond b counted r s req =
      { serve b counted r s req resource with
        response := (serve b counted r s req resource).response.withFields (Cors.fields req) } := by
  have hmethod : req.method ∈ resource.methods := (Route.of_found h).1
  have hpre : Cors.isPreflight req = false := by
    rw [Cors.isPreflight, decide_eq_false_iff_not]
    intro hoptions
    rw [hoptions] at hmethod
    cases resource <;> exact absurd hmethod (by decide)
  simp only [respond, hpre, dispatch, h, Bool.false_eq_true, ↓reduceIte]

theorem respond_found (b : Backend σ) (counted : Bool) (r : Registry) (s : σ) {req : Request}
    {resource : Resource} (h : Route.of req = .found resource) :
    (respond b counted r s req).response =
        (serve b counted r s req resource).response.withFields (Cors.fields req) ∧
      (respond b counted r s req).registry = (serve b counted r s req resource).registry ∧
      (respond b counted r s req).trace = (serve b counted r s req resource).trace := by
  rw [respond_served b counted r s h]
  exact ⟨rfl, rfl, rfl⟩

/-! ### Runs of a gateway -/

/-- What happens to a gateway: a request arrives, or time passes. Before a
request the provider's state may change without the gateway, and its publisher
has some answer to the event. -/
inductive Op (σ : Type) where
  | request (meanwhile : σ → σ) (publish : Publish) (req : Request)
  | advance (ns : Nat)

/-- The registry and the provider's state after an operation. -/
def step (p : Provider σ) (counted : Bool) (s : Session σ) : Op σ → Session σ
  | .request meanwhile publish req =>
    let x := respond (.ofProvider p publish) counted s.registry (meanwhile s.remote) req
    ⟨x.registry, x.remote⟩
  | .advance ns => ⟨s.registry.advance ns, s.remote⟩

/-- The registry and the provider's state after a list of operations. -/
def run (p : Provider σ) (counted : Bool) (s : Session σ) (ops : List (Op σ)) : Session σ :=
  ops.foldl (step p counted) s

theorem exchange_registry {α : Type} (document : α → Json) (o : Outcome σ α) :
    (exchange document o).registry = o.registry := by
  unfold exchange
  split <;> rfl

/-- To the registry a request is a run of registry operations. -/
theorem respond_registry (p : Provider σ) (publish : Publish) (counted : Bool) (r : Registry)
    (s : σ) (req : Request) :
    ∃ changes, (respond (.ofProvider p publish) counted r s req).registry = r.run changes := by
  obtain ⟨x, hx, hrespond⟩ := respond_leads (.ofProvider p publish) counted r s req
  rw [hrespond]
  cases hx with
  | process _ runs =>
    subst runs
    cases Body.process req.body with
    | error refusal => exact ⟨[], rfl⟩
    | ok cr =>
      obtain ⟨changes, h⟩ := Handshake.step_registry p ⟨r, s⟩ (.create publish cr)
      exact ⟨changes, (exchange_registry _ _).trans h⟩
  | confirm _ runs =>
    subst runs
    cases Body.confirm req.body with
    | error refusal => exact ⟨[], rfl⟩
    | ok cr =>
      obtain ⟨changes, h⟩ := Handshake.step_registry p ⟨r, s⟩ (.confirm publish cr)
      exact ⟨changes, (exchange_registry _ _).trans h⟩
  | still response _ keeps =>
    subst keeps
    exact ⟨[], rfl⟩

theorem run_registry (p : Provider σ) (counted : Bool) : ∀ (ops : List (Op σ)) (s : Session σ),
    ∃ changes, (run p counted s ops).registry = s.registry.run changes
  | [], _ => ⟨[], rfl⟩
  | op :: ops, s => by
    obtain ⟨first, hfirst⟩ : ∃ changes, (step p counted s op).registry = s.registry.run changes := by
      cases op with
      | request meanwhile publish req => exact respond_registry p publish counted _ _ req
      | advance ns => exact ⟨[.advance ns], rfl⟩
    obtain ⟨rest, hrest⟩ := run_registry p counted ops (step p counted s op)
    exact ⟨first ++ rest, hrest.trans (by rw [hfirst, Registry.run_append])⟩

/-- The tables of a gateway's registry agree in every state it reaches. -/
theorem run_coherent (p : Provider σ) (counted : Bool) (capacity ttl : Int) (remote : σ)
    (ops : List (Op σ)) :
    Registry.Coherent (run p counted ⟨Registry.new capacity ttl, remote⟩ ops).registry.tables := by
  obtain ⟨changes, h⟩ := run_registry p counted ops ⟨Registry.new capacity ttl, remote⟩
  rw [h]
  exact Registry.coherent_run capacity ttl changes

/-! ### The response to a failed operation -/

theorem faultResponse_calls (f : Fault) : (faultResponse f).2.calls = [] := by
  unfold faultResponse
  split
  · rfl
  · split
    · rfl
    · split <;> rfl

theorem faultResponse_onlyOwn (f : Fault) : (faultResponse f).1.OnlyOwn := by
  unfold faultResponse
  split
  · exact Response.json_onlyOwn _ _
  · split
    · exact Response.json_onlyOwn _ _
    · split <;> exact Response.json_onlyOwn _ _

/-- A fault of the provider is answered with 500. -/
theorem faultResponse_call {f : Fault} (h : f.isForeign = true) (op : String) :
    (faultResponse (.call op (some f))).1.status = 500 := by
  obtain ⟨hinvalid, hfound⟩ := f.isForeign_iff.mp h
  have hnodes : (Fault.call op (some f)).nodes = .call op (some f) :: f.nodes := by
    rw [Fault.nodes]
  have hinvalid' : (Fault.call op (some f)).invalid? = none := by
    rw [Fault.invalid?, hnodes]
    exact hinvalid
  have hfound' : (Fault.call op (some f)).isNotFound = false := by
    rw [Fault.isNotFound, hnodes]
    exact hfound
  have hcall : (Fault.call op (some f)).call? = some (op, (Fault.call op (some f)).text) := by
    rw [Fault.call?, hnodes]
    rfl
  simp only [faultResponse, hinvalid', hfound', hcall, Bool.false_eq_true, ↓reduceIte]
  rfl

/-! ### An honest exchange -/

/-- The status tells what was done: short of 200 the records of the registry are
undisturbed, and the provider was asked only if the status is 200 or 500. -/
structure Exchange.Honest (r : Registry) (x : Exchange σ) : Prop where
  registry : x.response.status ≠ 200 → ∃ secret, r.Undisturbed secret x.registry
  calls : x.trace.calls ≠ [] → x.response.status = 200 ∨ x.response.status = 500

/-- A response that changes nothing is honest, whatever its status. -/
theorem still_honest (r : Registry) (s : σ) (response : Response) :
    (still r s response).Honest r where
  registry _ := ⟨"", .refl r ""⟩
  calls h := absurd rfl h

/-- An operation that fails leaves the records undisturbed, and has asked the
provider only if its fault is answered with 500. -/
def FailsClean {α : Type} (r : Registry) (o : Outcome σ α) : Prop :=
  ∀ f, o.result = .error f → (∃ secret, r.Undisturbed secret o.registry) ∧
    (o.trace.calls ≠ [] → (faultResponse f).1.status = 500)

theorem create_failsClean {p : Provider σ} (hp : p.Foreign) (publish : Publish) (r : Registry)
    (s : σ) (req : CreateRequest) : FailsClean r (Handshake.create p publish r s req) := by
  intro f hf
  rcases create_fails hf with ⟨-, hc⟩ | ⟨params, g, rfl, hg, hc⟩
  · rw [hc]
    exact ⟨⟨"", .refl r ""⟩, fun h => absurd rfl h⟩
  · rw [hc]
    exact ⟨⟨"", .refl r ""⟩, fun _ => faultResponse_call (hp.create _ _ _ hg) _⟩

theorem confirm_failsClean {p : Provider σ} (hp : p.Foreign) (publish : Publish) {r : Registry}
    (hc : Registry.Coherent r.tables) (s : σ) (req : ConfirmRequest) :
    FailsClean r (Handshake.confirm p publish r s req) := by
  intro f hf
  by_cases hs : req.clientSecret = ""
  · rw [confirm_empty p publish r s hs]
    exact ⟨⟨"", .refl r ""⟩, fun h => absurd rfl h⟩
  cases hfound : (r.find req.clientSecret).1 with
  | none =>
    rw [confirm_unresolved p publish s hs hfound, Registry.find_none hc hfound]
    exact ⟨⟨"", .refl r ""⟩, fun h => absurd rfl h⟩
  | some rec =>
    rw [confirm_resolved p publish s hfound] at hf ⊢
    cases hr : reply p s rec (Text.trim req.paymentMethod) with
    | ok i =>
      rw [(confirmRecord_ok p publish _ s rec _ hr).1] at hf
      cases hf
    | error g =>
      obtain ⟨hres, hreg⟩ := confirmRecord_error p publish (r.find req.clientSecret).2 s rec _ hr
      rw [hres] at hf
      cases hf
      refine ⟨⟨req.clientSecret, ?_⟩, fun _ => faultResponse_call (hp.confirm _ _ _ _ hr) _⟩
      rw [hreg]
      exact Registry.find_undisturbed hc req.clientSecret

/-- **Running an operation is honest** if it fails clean. -/
theorem operate_honest {α β : Type} (r : Registry) (s : σ) (document : β → Json)
    (op : Registry → σ → α → Outcome σ β) (body : Except Body.Refusal α)
    (h : ∀ req, FailsClean r (op r s req)) : (operate r s document op body).Honest r := by
  cases body with
  | error refusal => exact still_honest r s _
  | ok req =>
    show (exchange document (op r s req)).Honest r
    unfold exchange
    cases hres : (op r s req).result with
    | ok a => exact ⟨fun hne => absurd rfl hne, fun _ => .inl rfl⟩
    | error f =>
      obtain ⟨hkept, hcalls⟩ := h req f hres
      refine ⟨fun _ => hkept, fun hasked => .inr (hcalls ?_)⟩
      simpa only [Trace.calls_append, faultResponse_calls, List.append_nil] using hasked

section Respond

variable {p : Provider σ} {publish : Publish} {r : Registry} {s : σ} {req : Request}
  {x : Exchange σ}

theorem operate_onlyOwn {α β : Type} (document : β → Json)
    (op : Registry → σ → α → Outcome σ β) (body : Except Body.Refusal α) :
    (operate r s document op body).response.OnlyOwn := by
  cases body with
  | error refusal => cases refusal <;> exact Response.json_onlyOwn _ _
  | ok req =>
    show (exchange document (op r s req)).response.OnlyOwn
    unfold exchange
    split
    · exact Response.json_onlyOwn _ _
    · exact faultResponse_onlyOwn _

theorem Leads.onlyOwn {b : Backend σ} (h : Leads b r s req x) : x.response.OnlyOwn := by
  cases h with
  | process _ runs => exact runs ▸ operate_onlyOwn _ _ _
  | confirm _ runs => exact runs ▸ operate_onlyOwn _ _ _
  | still response own keeps => exact keeps ▸ own

/-- **Every exchange is honest**, over a provider whose faults are its own. -/
theorem Leads.honest (hp : p.Foreign) (hc : Registry.Coherent r.tables)
    (h : Leads (.ofProvider p publish) r s req x) : x.Honest r := by
  cases h with
  | process _ runs =>
    exact runs ▸ operate_honest r s _ _ _ fun cr => create_failsClean hp publish r s cr
  | confirm _ runs =>
    exact runs ▸ operate_honest r s _ _ _ fun cr => confirm_failsClean hp publish hc s cr
  | still response _ keeps => exact keeps ▸ still_honest r s response

/-- A request that runs no operation leaves the registry as it is. -/
theorem Leads.registry_same {b : Backend σ} (h : Leads b r s req x) (hno : ¬ isOperation req) :
    x.registry = r := by
  cases h with
  | process post _ => exact absurd post hno
  | confirm post _ => exact absurd post hno
  | still response _ keeps => rw [keeps]; rfl

end Respond

/-- The value of each cross-origin field, once. -/
theorem cors_values {response : Response} (own : response.OnlyOwn) (req : Request) :
    let r := response.withFields (Cors.fields req)
    r.values "Access-Control-Allow-Origin" = ["*"] ∧
      r.values "Access-Control-Allow-Methods" = ["GET,POST,OPTIONS"] ∧
      r.values "Access-Control-Allow-Headers" =
        [if req.field "Access-Control-Request-Headers" = "" then "Content-Type"
          else req.field "Access-Control-Request-Headers"] := by
  intro r
  have hvalue : ∀ name, (∀ own ∈ ownNames, foldName own ≠ foldName name) →
      r.values name = ((Cors.fields req).filter fun f => foldName f.1 == foldName name).map
        Prod.snd := fun name hname => Response.values_withFields own _ hname
  have horigin := hvalue "Access-Control-Allow-Origin" (by decide)
  have hmethods := hvalue "Access-Control-Allow-Methods" (by decide)
  have hheaders := hvalue "Access-Control-Allow-Headers" (by decide)
  rw [horigin, hmethods, hheaders]
  unfold Cors.fields Cors.allowedFields Cors.requestField
  by_cases hask : req.field "Access-Control-Request-Headers" = ""
  · simp +decide only [hask, ↓reduceIte, List.append_nil, List.filter_cons, List.filter_nil,
      List.map_cons, List.map_nil, and_self]
  · simp +decide only [hask, ↓reduceIte, List.cons_append, List.nil_append, List.filter_cons,
      List.filter_nil, List.map_cons, List.map_nil, and_self]

/-- **The status tells what a request did**, in every state that a gateway
reaches over a provider whose faults are its own, for every request. What the
registry holds, its indexes, expiries and size change only by a creation or a
confirmation that is answered with 200; the provider is asked only if the
answer is 200 or 500; and every response has the three cross-origin fields,
once each. -/
theorem effects_only_on_success (p : Provider σ) (hp : p.Foreign) (capacity ttl : Int)
    (remote : σ) (counted : Bool) (ops : List (Op σ)) (publish : Publish) (req : Request) :
    let s := run p counted ⟨Registry.new capacity ttl, remote⟩ ops
    let x := respond (.ofProvider p publish) counted s.registry s.remote req
    ((¬ ∃ secret, s.registry.Undisturbed secret x.registry) →
      isOperation req ∧ x.response.status = 200) ∧
    (x.trace.calls ≠ [] → x.response.status = 200 ∨ x.response.status = 500) ∧
    x.response.values "Access-Control-Allow-Origin" = ["*"] ∧
    x.response.values "Access-Control-Allow-Methods" = ["GET,POST,OPTIONS"] ∧
    x.response.values "Access-Control-Allow-Headers" =
      [if req.field "Access-Control-Request-Headers" = "" then "Content-Type"
        else req.field "Access-Control-Request-Headers"] := by
  intro s x
  have hc : Registry.Coherent s.registry.tables := run_coherent p counted capacity ttl remote ops
  obtain ⟨y, hy, hx⟩ := respond_leads (.ofProvider p publish) counted s.registry s.remote req
  have hxy : x = { y with response := y.response.withFields (Cors.fields req) } := hx
  have honest := hy.honest hp hc
  rw [hxy]
  refine ⟨fun hchanged => ⟨?_, ?_⟩, honest.calls, cors_values hy.onlyOwn req⟩
  · by_contra hno
    exact hchanged ⟨"", by rw [hy.registry_same hno]; exact .refl s.registry ""⟩
  · by_contra hstatus
    exact hchanged (honest.registry hstatus)

/-- A purchase in the sandbox is answered with 200 and comes on record. Its
payment with a card that is declined is answered with 500: the provider was
asked, and the record is what it was. -/
theorem effects_only_on_success_declined :
    let p := Sandbox.provider fun n => Digits.text n
    let purchase : Request := ⟨"POST", "/payments/process", [],
      Text.Utf8.bytes "\x7b\"amount\":10,\"currency\":\"usd\"\x7d"⟩
    let payment : Request := ⟨"POST", "/payments/confirm?retry=1",
      [("access-control-request-headers", "x-shop")],
      Text.Utf8.bytes ("\x7b\"payment_intent_client_secret\":\"pi_1_secret_2\"," ++
        "\"payment_method_id\":\"pm_card_chargeDeclined\"\x7d")⟩
    let s := run p true ⟨Registry.new 3 1000, Sandbox.empty⟩ [.request id (fun _ => none) purchase]
    let x := respond (.ofProvider p fun _ => none) true s.registry s.remote payment
    p.Foreign ∧ s.registry.size = 1 ∧ isOperation payment ∧ x.response.status = 500 ∧
      x.trace.calls = [.attach "pi_1" "pm_card_chargeDeclined",
        .confirm "pi_1" "pm_card_chargeDeclined"] ∧
      (∃ secret, s.registry.Undisturbed secret x.registry) ∧
      x.response.values "Access-Control-Allow-Headers" = ["x-shop"] := by
  intro p purchase payment s x
  have hp : p.Foreign := Sandbox.provider_foreign _
  have hx : (x.response.status, x.trace.calls) =
      (500, [.attach "pi_1" "pm_card_chargeDeclined",
        .confirm "pi_1" "pm_card_chargeDeclined"]) := by decide +kernel
  obtain ⟨hstatus, hcalls⟩ := Prod.mk.inj hx
  obtain ⟨hchanged, -, -, -, hheaders⟩ := effects_only_on_success p hp 3 1000 Sandbox.empty true
    [.request id (fun _ => none) purchase] (fun _ => none) payment
  refine ⟨hp, by decide +kernel, ⟨rfl, by decide +kernel⟩, hstatus, hcalls, ?_, hheaders⟩
  by_contra hno
  have hok : x.response.status = 200 := (hchanged hno).2
  rw [hstatus] at hok
  cases hok

end Gateway
end PaymentGateway
