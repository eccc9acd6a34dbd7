/-
# The best-effort attach is unseen by the caller

Before it confirms an intent the handshake tries to attach the payment method, and
goes on whatever comes of it. So the answer to the attach decides nothing that the
caller sees: with any other answer in the provider's script the response is the
same, header fields and body included, the provider is called in the same way and
the registry comes out the same (`attach_unseen`). That holds for faults too which,
if they came out of the handshake, would be answered as a bad field or as an unknown
secret.

What came of the attach is reported beside: in the result, and in the span of the
attach also when the confirmation fails afterwards. It is one of four outcomes, and
which one it is depends on what occurs anywhere in the fault (`Handshake.Reported`,
`Handshake.attach_reported`).

Key definitions: `Script.withAttach`, `Handshake.Reported`,
`Gateway.Exchange.Alike`.
Key theorems: `Handshake.attach_reported`, `Handshake.confirm_withAttach`,
`Gateway.attach_unseen`.
-/
import PaymentGateway.Proofs.Fault.Tree
import PaymentGateway.Proofs.Gateway.Effects

namespace PaymentGateway

/-- The script with another answer to the attach. -/
def Script.withAttach (script : Script) (answer : Option Fault) : Script :=
  { script with attach := answer }

namespace Handshake

/-! ### What is reported of an attach -/

/-- **The outcome that is reported**, for a payment method ("" for none) and the
provider's answer to its attach. -/
structure Reported (method : String) (answer : Option Fault) (outcome : AttachOutcome) : Prop where
  skipped : outcome = .skipped ↔ method = ""
  attached : outcome = .attached ↔ method ≠ "" ∧ answer = none
  alreadyAttached : outcome = .alreadyAttached ↔
    method ≠ "" ∧ ∃ f, answer = some f ∧ Fault.Occurs .alreadyAttached f
  failed : outcome = .failed ↔
    method ≠ "" ∧ ∃ f, answer = some f ∧ ¬ Fault.Occurs .alreadyAttached f

theorem attach_reported (script : Script) (id method : String) :
    Reported method script.attach (attach Script.provider script id method).1 := by
  by_cases hm : method = ""
  · have hattach : (attach Script.provider script id method).1 = .skipped := by
      simp only [attach, hm, ↓reduceIte]
    rw [hattach]
    constructor <;> simp [hm]
  have hattach : (attach Script.provider script id method).1 = attachOutcome script.attach := by
    simp only [attach, hm, ↓reduceIte, Script.provider]
  rw [hattach]
  cases ha : script.attach with
  | none => constructor <;> simp [hm, attachOutcome]
  | some f =>
    have hoccurs := f.isAlreadyAttached_iff
    cases hf : f.isAlreadyAttached with
    | true =>
      have hin : Fault.Occurs .alreadyAttached f := hoccurs.mp hf
      constructor <;> simp [hm, attachOutcome, hf, hin]
    | false =>
      have hout : ¬ Fault.Occurs .alreadyAttached f := fun h => by simp [hoccurs.mpr h] at hf
      constructor <;> simp [hm, attachOutcome, hf, hout]

/-- What the spans of the attach say in a trace. -/
def attachAttributes (t : Trace) : List (List (String × Attribute)) :=
  (t.spans.filter (·.name = "handshake.Attach")).map (·.attributes)

@[simp] theorem attachAttributes_append (t u : Trace) :
    attachAttributes (t ++ u) = attachAttributes t ++ attachAttributes u := by
  have hspans : (t ++ u).spans = t.spans ++ u.spans := rfl
  simp only [attachAttributes, hspans, List.filter_append, List.map_append]

@[simp] theorem attachAttributes_ofCall (c : Call) : attachAttributes (.ofCall c) = [] := rfl
@[simp] theorem attachAttributes_ofLog (line : String) : attachAttributes (.ofLog line) = [] := rfl

theorem attachAttributes_ofSpan (span : Span) : attachAttributes (.ofSpan span) =
    if span.name = "handshake.Attach" then [span.attributes] else [] := by
  by_cases h : span.name = "handshake.Attach" <;> simp [attachAttributes, Trace.ofSpan, h]

theorem attachAttributes_announce (publish : Publish) (type : String) (data : IntentData) :
    attachAttributes (announce publish type data) = [] := by
  unfold announce
  rw [attachAttributes_append]
  split <;> rfl

theorem attachAttributes_attach (script : Script) (id method : String) :
    attachAttributes (attach Script.provider script id method).2.2 =
      if method = "" then [] else
        [[("payment.attach", .text (attach Script.provider script id method).1.text)]] := by
  by_cases hm : method = ""
  · simp only [attach, hm, ↓reduceIte]
    rfl
  · simp only [attach, hm, ↓reduceIte, Script.provider, attachTrace]
    split <;> simp [attachAttributes_ofSpan]

/-- The span of the attach has the outcome, also when the confirmation fails. -/
theorem attachAttributes_confirmRecord (publish : Publish) (r : Registry) (script : Script)
    (rec : Record) (method : String) :
    attachAttributes (confirmRecord Script.provider publish r script rec method).trace =
      if method = "" then [] else
        [[("payment.attach",
          .text (attach Script.provider script rec.id method).1.text)]] := by
  rw [← attachAttributes_attach]
  rcases ha : attach Script.provider script rec.id method with ⟨outcome, s, attached⟩
  have hname : (confirmSpan rec).name ≠ "handshake.Attach" := by
    show "handshake.Confirm" ≠ "handshake.Attach"
    decide
  rcases hc : Script.provider.confirm rec.id method s with ⟨f | i, s'⟩
  · simp [confirmRecord, ha, hc, failure, attachAttributes_ofSpan, hname]
  · simp [confirmRecord, ha, hc, confirmed, attachAttributes_announce, attachAttributes_ofSpan,
      hname]

/-! ### What the attach does not change -/

variable {σ τ α β : Type}

/-- Of two outcomes the caller sees the same: the same document, or the same fault.
The registry and the calls to the provider are the same too. -/
structure Outcome.Alike (document : α → β) (o : Outcome σ α) (o' : Outcome τ α) : Prop where
  result : o.result.map document = o'.result.map document
  registry : o.registry = o'.registry
  calls : o.trace.calls = o'.trace.calls

theorem Outcome.Alike.fault {document : α → β} {o : Outcome σ α} {o' : Outcome τ α}
    (h : o.Alike document o') {f : Fault} (hf : o.result = .error f) : o'.result = .error f := by
  have hresult := h.result
  rw [hf] at hresult
  cases ho : o'.result with
  | error g =>
    rw [ho] at hresult
    cases hresult
    rfl
  | ok a =>
    rw [ho] at hresult
    cases hresult

section WithAttach

variable (publish : Publish) (r : Registry) (script : Script) (a b : Option Fault)

theorem create_withAttach (req : CreateRequest) :
    (create Script.provider publish r (script.withAttach a) req).Alike Gateway.createdJson
      (create Script.provider publish r (script.withAttach b) req) := by
  cases haccept : accept req with
  | error f => constructor <;> simp only [create, haccept]
  | ok params =>
    cases hcreate : script.create with
    | error f =>
      constructor <;> simp only [create, haccept, Script.provider, Script.withAttach, hcreate]
    | ok i =>
      constructor <;> simp only [create, haccept, Script.provider, Script.withAttach, hcreate]

/-- The document of a confirmation leaves out what came of the attach. -/
theorem confirmedJson_attach (rec : Record) (outcome outcome' : AttachOutcome) (i : Intent) :
    Gateway.confirmedJson (confirmedResult rec outcome i) =
      Gateway.confirmedJson (confirmedResult rec outcome' i) := rfl

theorem confirmRecord_withAttach (rec : Record) (method : String) :
    (confirmRecord Script.provider publish r (script.withAttach a) rec method).Alike
      Gateway.confirmedJson
      (confirmRecord Script.provider publish r (script.withAttach b) rec method) := by
  have hcalls := fun c =>
    confirmRecord_calls Script.provider publish r (script.withAttach c) rec method
  have hreply : ∀ c, reply Script.provider (script.withAttach c) rec method = script.confirm :=
    fun c => reply_script rec method (script.withAttach c)
  cases hc : script.confirm with
  | error f =>
    have houtcome := fun c =>
      confirmRecord_error Script.provider publish r (script.withAttach c) rec method
        ((hreply c).trans hc)
    refine ⟨?_, ?_, (hcalls a).trans (hcalls b).symm⟩
    · rw [(houtcome a).1, (houtcome b).1]
    · rw [(houtcome a).2, (houtcome b).2]
  | ok i =>
    have houtcome := fun c =>
      confirmRecord_ok Script.provider publish r (script.withAttach c) rec method
        ((hreply c).trans hc)
    refine ⟨?_, ?_, (hcalls a).trans (hcalls b).symm⟩
    · rw [(houtcome a).1, (houtcome b).1]
      exact congrArg Except.ok (confirmedJson_attach rec _ _ i)
    · rw [(houtcome a).2, (houtcome b).2]

/-- **The answer to the attach decides nothing that the caller sees.** -/
theorem confirm_withAttach (req : ConfirmRequest) :
    (confirm Script.provider publish r (script.withAttach a) req).Alike Gateway.confirmedJson
      (confirm Script.provider publish r (script.withAttach b) req) := by
  by_cases hs : req.clientSecret = ""
  · rw [confirm_empty _ _ _ _ hs, confirm_empty _ _ _ _ hs]
    exact ⟨rfl, rfl, rfl⟩
  cases hfind : (r.find req.clientSecret).1 with
  | none =>
    rw [confirm_unresolved _ _ _ hs hfind, confirm_unresolved _ _ _ hs hfind]
    exact ⟨rfl, rfl, rfl⟩
  | some rec =>
    rw [confirm_resolved _ _ _ hfind, confirm_resolved _ _ _ hfind]
    exact confirmRecord_withAttach publish _ script a b rec _

end WithAttach

/-- What the caller of the handshake is told of the attach: the outcome, in the
result of a confirmation that succeeds and in the span of the attach. -/
theorem confirm_reported (publish : Publish) {r : Registry} (script : Script)
    {req : ConfirmRequest} {rec : Record} (h : (r.find req.clientSecret).1 = some rec) :
    let o := confirm Script.provider publish r script req
    let method := Text.trim req.paymentMethod
    ∃ outcome, Reported method script.attach outcome ∧
      (∀ c, o.result = .ok c → c.attach = outcome) ∧
      attachAttributes o.trace =
        if method = "" then [] else [[("payment.attach", .text outcome.text)]] := by
  intro o method
  have ho : o = confirmRecord Script.provider publish (r.find req.clientSecret).2 script rec
      method := confirm_resolved _ publish script h
  refine ⟨_, attach_reported script rec.id method, fun c hc => ?_, ?_⟩
  · cases hreply : reply Script.provider script rec method with
    | error f =>
      rw [ho, (confirmRecord_error _ publish _ script rec method hreply).1] at hc
      cases hc
    | ok i =>
      rw [ho, (confirmRecord_ok _ publish _ script rec method hreply).1] at hc
      simp only [← Except.ok.inj hc, confirmedResult]
  · rw [ho]
    exact attachAttributes_confirmRecord publish _ script rec method

end Handshake

namespace Gateway

open Http Handshake

/-! ### Over HTTP -/

/-- Two exchanges that a caller, the registry and the provider's log of calls cannot
tell apart. -/
structure Exchange.Alike {σ τ : Type} (x : Exchange σ) (y : Exchange τ) : Prop where
  response : x.response = y.response
  registry : x.registry = y.registry
  calls : x.trace.calls = y.trace.calls

variable {σ τ α β : Type}

theorem exchange_alike {document : α → Json} {o : Outcome σ α} {o' : Outcome τ α}
    (h : o.Alike document o') : (exchange document o).Alike (exchange document o') := by
  obtain ⟨hresult, hregistry, hcalls⟩ := h
  unfold exchange
  cases ho : o.result with
  | ok x =>
    cases ho' : o'.result with
    | ok y =>
      rw [ho, ho'] at hresult
      have hdocument : document x = document y := Except.ok.inj hresult
      exact ⟨congrArg (Response.json 200) hdocument, hregistry, hcalls⟩
    | error g =>
      rw [ho, ho'] at hresult
      cases hresult
  | error f =>
    have hf : o'.result = .error f := Outcome.Alike.fault ⟨hresult, hregistry, hcalls⟩ ho
    rw [hf]
    refine ⟨rfl, hregistry, ?_⟩
    simp only [Trace.calls_append, hcalls]

theorem operate_alike {r : Registry} {s : σ} {t : τ} {document : β → Json}
    {op : Registry → σ → α → Outcome σ β} {op' : Registry → τ → α → Outcome τ β}
    (h : ∀ req, (op r s req).Alike document (op' r t req)) (body : Except Body.Refusal α) :
    (operate r s document op body).Alike (operate r t document op' body) := by
  cases body with
  | error refusal => exact ⟨rfl, rfl, rfl⟩
  | ok req => exact exchange_alike (h req)

/-- Where the two operations of one backend are like those of another, so are the
exchanges of all requests. -/
theorem respond_alike (bk : Backend σ) (bk' : Backend τ) {r : Registry} {s : σ} {t : τ}
    (hcreate : ∀ req, (bk.create r s req).Alike createdJson (bk'.create r t req))
    (hconfirm : ∀ req, (bk.confirm r s req).Alike confirmedJson (bk'.confirm r t req))
    (counted : Bool) (req : Request) :
    (respond bk counted r s req).Alike (respond bk' counted r t req) := by
  have hdispatch : (dispatch bk counted r s req).Alike (dispatch bk' counted r t req) := by
    unfold dispatch
    cases Route.of req with
    | found resource =>
      cases resource with
      | process => exact operate_alike hcreate _
      | confirm => exact operate_alike hconfirm _
      | health => exact ⟨rfl, rfl, rfl⟩
    | moved url => exact ⟨rfl, rfl, rfl⟩
    | wrongMethod allowed => exact ⟨rfl, rfl, rfl⟩
    | noTarget => exact ⟨rfl, rfl, rfl⟩
    | unknown => exact ⟨rfl, rfl, rfl⟩
  unfold respond
  by_cases hpre : Cors.isPreflight req = true
  · rw [if_pos hpre, if_pos hpre]
    exact ⟨rfl, rfl, rfl⟩
  · rw [if_neg hpre, if_neg hpre]
    exact ⟨congrArg (Response.withFields · (Cors.fields req)) hdispatch.response,
      hdispatch.registry, hdispatch.calls⟩

/-- **The best-effort attach is unseen by the caller**, in every state of the
registry and whatever the provider's script is. With any other answer to the attach
every request gets the same response and leaves the same registry after the same
calls, and a confirmation that fails does so with the same fault. What came of the
attach is reported beside, where the secret is known: skipped, attached, attached
already or failed, by what occurs in the fault. -/
theorem attach_unseen (counted : Bool) (publish : Publish) (r : Registry) (script : Script)
    (a b : Option Fault) :
    (∀ req : Request,
      let x := respond (.ofProvider Script.provider publish) counted r (script.withAttach a) req
      let y := respond (.ofProvider Script.provider publish) counted r (script.withAttach b) req
      x.response = y.response ∧ x.registry = y.registry ∧ x.trace.calls = y.trace.calls) ∧
    ∀ req : ConfirmRequest,
      let o := Handshake.confirm Script.provider publish r (script.withAttach a) req
      let o' := Handshake.confirm Script.provider publish r (script.withAttach b) req
      let method := Text.trim req.paymentMethod
      (∀ f, o.result = .error f ↔ o'.result = .error f) ∧
      ∀ rec, (r.find req.clientSecret).1 = some rec →
        ∃ outcome, Reported method a outcome ∧ (∀ c, o.result = .ok c → c.attach = outcome) ∧
          attachAttributes o.trace =
            if method = "" then [] else [[("payment.attach", .text outcome.text)]] := by
  refine ⟨fun req => ?_, fun req => ⟨fun f => ⟨?_, ?_⟩, fun rec hfind => ?_⟩⟩
  · obtain ⟨hresponse, hregistry, hcalls⟩ :=
      respond_alike (.ofProvider Script.provider publish) (.ofProvider Script.provider publish)
        (create_withAttach publish r script a b) (confirm_withAttach publish r script a b)
        counted req
    exact ⟨hresponse, hregistry, hcalls⟩
  · exact (confirm_withAttach publish r script a b req).fault
  · exact (confirm_withAttach publish r script b a req).fault
  · exact confirm_reported publish (script.withAttach a) hfind

/-- A payment method that is attached already, said deep inside a fault in which a bad
field and an unknown secret occur too. The customer has to act next, and is told so as
if the attach had worked. -/
theorem attach_unseen_attached_before :
    let script : Script := ⟨.error .canceled, .ok ⟨"", "", Status.requiresAction, none⟩, none⟩
    let fault : Fault := .joined [.invalid "amount is too large", .notFound,
      .wrapped "attach: " (.remote "attach" "" "" 400 (some .alreadyAttached)) ""]
    let r := (Registry.new 0 0).put "pi_1" Status.requiresConfirmation "s1"
    let payment : Request := ⟨"POST", "/payments/confirm", [],
      Text.Utf8.bytes ("\x7b\"payment_intent_client_secret\":\"s1\"," ++
        "\"payment_method_id\":\" pm_1 \"\x7d")⟩
    let x (a : Option Fault) :=
      respond (.ofProvider Script.provider fun _ => none) true r (script.withAttach a) payment
    (r.find "s1").1 = some ⟨"pi_1", Status.requiresConfirmation, "s1"⟩ ∧
      (x none).response.status = 200 ∧ (x (some fault)).response = (x none).response ∧
      ∃ outcome, Reported "pm_1" (some fault) outcome ∧ outcome = .alreadyAttached := by
  intro script fault r payment x
  have hfind : (r.find "s1").1 = some ⟨"pi_1", Status.requiresConfirmation, "s1"⟩ := by
    decide +kernel
  obtain ⟨hresponse, hreported⟩ :=
    attach_unseen true (fun _ => none) r script (some fault) none
  obtain ⟨outcome, houtcome, -, -⟩ := (hreported ⟨"s1", " pm_1 "⟩).2 _ hfind
  have htrim : Text.trim " pm_1 " = "pm_1" := by decide +kernel
  rw [htrim] at houtcome
  have hoccurs : Fault.Occurs .alreadyAttached fault :=
    .joined (List.mem_of_getLast? rfl) (.wrapped (.remote .here))
  exact ⟨hfind, by decide +kernel, (hresponse payment).1, outcome, houtcome,
    houtcome.alreadyAttached.mpr ⟨by decide, fault, rfl, hoccurs⟩⟩

end Gateway
end PaymentGateway
