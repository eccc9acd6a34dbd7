/-
# The answer to a fault

A fault is a tree, and the answer to it depends on what occurs in the whole tree. There
are four ways to answer (`Mapped`): a bad field anywhere is answered with 400 and the
message of the first one; else an unknown secret anywhere with 404 and the text of the
whole; else the answer is 500, with the text of the first failed remote call if there is
one. Only if there is none, the text is that of the whole, and the fault is logged here.

A fault of the provider comes inside a failed call of the handshake, which is then the
first one in the tree, and has the text of the provider's fault. So if neither a bad field
nor an unknown secret occurs in it, it is answered with 500 and its own text, and the log
has it once, from the handshake (`fault_mapping`). A best-effort attach that failed
before may have a line of its own in front of it.

Key definitions: `Gateway.Mapped`, `Handshake.attachLog`.
Key theorems: `Gateway.faultResponse_mapped`, `Gateway.faultResponse_failedCall`,
`Gateway.fault_mapping`.
-/
import PaymentGateway.Proofs.Fault.First
import PaymentGateway.Proofs.Gateway.SecretOverHttp

namespace PaymentGateway

open Fault (Occurs First IsInvalid IsCall)
open Json (IsObject)

/-! ### What the handshake logs of a failure -/

namespace Handshake

variable {σ : Type} {p : Provider σ} {s : σ} {f : Fault}

/-- What is logged of the answer to a best-effort attach: a line if the provider refuses it,
and not because the method is bound already. -/
def answerLog (id method : String) : Option Fault → List String
  | none => []
  | some f =>
    if f.isAlreadyAttached then []
    else [Log.line ("[handshake] attach " ++ method ++ " to intent " ++ id ++
      " failed, proceeding to confirm: " ++ f.text)]

/-- The log of a best-effort attach; without a method there is none. -/
def attachLog (p : Provider σ) (s : σ) (id method : String) : List String :=
  if method = "" then [] else answerLog id method (p.attach method id s).1

theorem attachTrace_log (id method : String) (answer : Option Fault) :
    (attachTrace id method answer).log = answerLog id method answer := by
  cases answer with
  | none => rfl
  | some f =>
    by_cases hbound : f.isAlreadyAttached = true
    · simp [attachTrace, attachOutcome, answerLog, hbound]
    · simp [attachTrace, attachOutcome, answerLog, hbound]

theorem attach_log (p : Provider σ) (s : σ) (id method : String) :
    (attach p s id method).2.2.log = attachLog p s id method := by
  unfold attach attachLog
  split
  · rfl
  · exact attachTrace_log id method _

theorem failure_log (op : String) (span : Span) (f : Fault) :
    (failure op span f).log = [Log.line ("[handshake] " ++ op ++ " error: " ++ f.text)] := rfl

theorem create_failed (publish : Publish) (r : Registry) {req : CreateRequest}
    {params : CreateParams}
    (haccept : accept req = .ok params) (hf : (p.create params s).1 = .error f) :
    (create p publish r s req).result = .error (.call createOp (some f)) ∧
      (create p publish r s req).trace.log =
        [Log.line ("[handshake] create payment intent error: " ++ f.text)] := by
  rcases hc : p.create params s with ⟨g | i, s'⟩
  · rw [hc] at hf
    cases hf
    simp only [create, haccept, hc, Trace.log_append, Trace.log_ofCall, failure_log,
      List.nil_append, true_and]
    rfl
  · rw [hc] at hf
    cases hf

theorem confirmRecord_error_log (publish : Publish) (r : Registry) {rec : Record} {method : String}
    (h : reply p s rec method = .error f) :
    (confirmRecord p publish r s rec method).trace.log = attachLog p s rec.id method ++
      [Log.line ("[handshake] confirm payment intent error: " ++ f.text)] := by
  rw [← attach_log]
  rcases ha : attach p s rec.id method with ⟨outcome, s', trace⟩
  rcases hc : p.confirm rec.id method s' with ⟨g | i, s''⟩
  · have hg : g = f := by simpa [reply, attached, ha, hc] using h
    subst hg
    simp only [confirmRecord, ha, hc, Trace.log_append, Trace.log_ofCall, failure_log,
      List.append_nil]
    rfl
  · simp [reply, attached, ha, hc] at h

theorem confirm_failed (publish : Publish) {r : Registry} {req : ConfirmRequest} {rec : Record}
    (hfind : (r.find req.clientSecret).1 = some rec)
    (hf : reply p s rec (Text.trim req.paymentMethod) = .error f) :
    (confirm p publish r s req).result = .error (.call confirmOp (some f)) ∧
      (confirm p publish r s req).trace.log =
        attachLog p s rec.id (Text.trim req.paymentMethod) ++
          [Log.line ("[handshake] confirm payment intent error: " ++ f.text)] := by
  rw [confirm_resolved p publish s hfind]
  exact ⟨(confirmRecord_error p publish _ s rec _ hf).1, confirmRecord_error_log publish _ hf⟩

end Handshake

namespace Gateway

open Http Handshake

variable {σ : Type} {f : Fault}

/-! ### The four ways to answer -/

@[simp] theorem failure_status (status : Nat) (message : String) :
    (Response.failure status message).status = status := rfl

theorem failure_isObject (status : Nat) (message : String) :
    IsObject (Response.failure status message).body.toList [("error", .text message)] :=
  Json.isObject_render (.cons ⟨rfl, Json.says_ofText _⟩ .nil)

/-- **The answer to a fault and what it logs**, by what occurs in the fault. -/
inductive Mapped (f : Fault) : Response × Trace → Prop where
  | invalid {message : String} (first : First IsInvalid (.invalid message) f) :
    Mapped f (.failure 400 message, .empty)
  | notFound (fields : ¬ f.Has IsInvalid) (found : Occurs .notFound f) :
    Mapped f (.failure 404 f.text, .empty)
  | reported {g : Fault} (fields : ¬ f.Has IsInvalid) (found : ¬ Occurs .notFound f)
    (first : First IsCall g f) : Mapped f (.failure 500 g.text, .empty)
  | unexpected (fields : ¬ f.Has IsInvalid) (found : ¬ Occurs .notFound f)
    (calls : ¬ f.Has IsCall) :
    Mapped f (.failure 500 f.text, .ofLog (Log.line ("[api] unexpected error: " ++ f.text)))

theorem faultResponse_mapped (f : Fault) : Mapped f (faultResponse f) := by
  cases hinvalid : f.invalid? with
  | some message =>
    have hx : faultResponse f = (.failure 400 message, .empty) := by
      simp only [faultResponse, hinvalid]
    exact hx ▸ .invalid (Fault.invalid?_eq_some hinvalid)
  | none =>
    have hfields := Fault.invalid?_eq_none hinvalid
    by_cases hfound : f.isNotFound = true
    · have hx : faultResponse f = (.failure 404 f.text, .empty) := by
        simp only [faultResponse, hinvalid, hfound, ↓reduceIte]
      exact hx ▸ .notFound hfields (f.isNotFound_iff.mp hfound)
    have hnot : ¬ Occurs .notFound f := fun h => hfound (f.isNotFound_iff.mpr h)
    cases hcall : f.call? with
    | some call =>
      obtain ⟨g, hfirst, htext⟩ := Fault.call?_eq_some hcall
      have hx : faultResponse f = (.failure 500 g.text, .empty) := by
        simp only [faultResponse, hinvalid, hfound, hcall, ← htext, Bool.false_eq_true, ↓reduceIte]
      exact hx ▸ .reported hfields hnot hfirst
    | none =>
      have hx : faultResponse f = (.failure 500 f.text,
          .ofLog (Log.line ("[api] unexpected error: " ++ f.text))) := by
        simp only [faultResponse, hinvalid, hfound, hcall, Bool.false_eq_true, ↓reduceIte]
      exact hx ▸ .unexpected hfields hnot (Fault.call?_eq_none hcall)

/-- The status of the answer, by what occurs in the fault. -/
theorem Mapped.status {x : Response × Trace} (h : Mapped f x) :
    (x.1.status = 400 ↔ f.Has IsInvalid) ∧
      (x.1.status = 404 ↔ ¬ f.Has IsInvalid ∧ Occurs .notFound f) ∧
      (x.1.status = 500 ↔ ¬ f.Has IsInvalid ∧ ¬ Occurs .notFound f) := by
  cases h with
  | invalid first =>
    have hfields := first.has
    simp [hfields]
  | notFound fields found => simp [fields, found]
  | reported fields found _ => simp [fields, found]
  | unexpected fields found _ => simp [fields, found]

/-- Whether the answer logs the fault, by what occurs in it. -/
theorem Mapped.log {x : Response × Trace} (h : Mapped f x) :
    (x.2.log ≠ [] ↔ ¬ f.Has IsInvalid ∧ ¬ Occurs .notFound f ∧ ¬ f.Has IsCall) ∧
      (x.2.log ≠ [] → x.2.log = [Log.line ("[api] unexpected error: " ++ f.text)]) := by
  cases h with
  | invalid first =>
    have hfields := first.has
    simp [hfields]
  | notFound _ found => simp [found]
  | reported _ _ first =>
    have hcalls := first.has
    simp [hcalls]
  | unexpected fields found calls => simp [fields, found, calls]

/-- The message of the answer, by its status. -/
theorem Mapped.message {x : Response × Trace} (h : Mapped f x) :
    ∃ message, IsObject x.1.body.toList [("error", .text message)] ∧
      (x.1.status = 400 → First IsInvalid (.invalid message) f) ∧
      (x.1.status = 404 → message = f.text) ∧
      (x.1.status = 500 → (∃ g, First IsCall g f ∧ message = g.text) ∨
        ¬ f.Has IsCall ∧ message = f.text) := by
  cases h with
  | @invalid message first =>
    exact ⟨message, failure_isObject _ _, fun _ => first, nofun, nofun⟩
  | notFound fields found => exact ⟨f.text, failure_isObject _ _, nofun, fun _ => rfl, nofun⟩
  | @reported g fields found first =>
    exact ⟨g.text, failure_isObject _ _, nofun, nofun, fun _ => .inl ⟨g, first, rfl⟩⟩
  | unexpected fields found calls =>
    exact ⟨f.text, failure_isObject _ _, nofun, nofun, fun _ => .inr ⟨calls, rfl⟩⟩

/-! ### Failed operations over HTTP -/

/-- **A failed call of the handshake is answered with the text of its cause**, and logged no
more, if neither a bad field nor an unknown secret occurs in the cause. -/
theorem faultResponse_failedCall (op : String) (hfields : ¬ f.Has IsInvalid)
    (hfound : ¬ Occurs .notFound f) :
    faultResponse (.call op (some f)) = (.failure 500 f.text, .empty) := by
  have hfirst : First IsCall (.call op (some f)) (.call op (some f)) := .here ⟨op, _, rfl⟩
  have hmapped := faultResponse_mapped (.call op (some f))
  generalize faultResponse (.call op (some f)) = x at hmapped
  cases hmapped with
  | invalid first =>
    cases first with
    | call _ inside => exact absurd inside.has hfields
  | notFound _ found =>
    cases found with
    | call inside => exact absurd inside hfound
  | reported _ _ first =>
    -- the call is the outermost one, so it is the first
    rw [← hfirst.unique first, Fault.text]
  | unexpected _ _ calls => exact absurd hfirst.has calls

/-- What an operation that failed at the provider is answered with, and what is logged. -/
theorem exchange_call {α : Type} (document : α → Json) {o : Outcome σ α} {op : String}
    (ho : o.result = .error (.call op (some f))) (hfields : ¬ f.Has IsInvalid)
    (hfound : ¬ Occurs .notFound f) :
    (exchange document o).response = .failure 500 f.text ∧
      (exchange document o).trace.log = o.trace.log := by
  simp only [exchange, ho, faultResponse_failedCall op hfields hfound, Trace.log_append,
    Trace.log_empty, List.append_nil, and_self]

/-- A request that ran an operation which failed at the provider. -/
theorem respond_failed {α : Type} {b : Backend σ} {counted : Bool} {r : Registry} {s : σ}
    {req : Request} {resource : Resource} {document : α → Json} {o : Outcome σ α} {op : String}
    (hroute : Route.of req = .found resource)
    (hserve : serve b counted r s req resource = exchange document o)
    (ho : o.result = .error (.call op (some f))) (hfields : ¬ f.Has IsInvalid)
    (hfound : ¬ Occurs .notFound f) :
    (respond b counted r s req).response.status = 500 ∧
      IsObject (respond b counted r s req).response.body.toList [("error", .text f.text)] ∧
      (respond b counted r s req).trace.log = o.trace.log := by
  obtain ⟨hresponse, -, htrace⟩ := respond_found b counted r s hroute
  obtain ⟨hfailure, hlog⟩ := exchange_call document ho hfields hfound
  rw [hserve, hfailure] at hresponse
  rw [hserve] at htrace
  rw [hresponse, htrace, hlog]
  exact ⟨rfl, failure_isObject 500 f.text, rfl⟩

/-- **What every fault is answered with**, over HTTP, and who logs it. The answer to a fault
is 400, 404 or 500 by what occurs in it; it is logged as unexpected only if neither a bad
field nor an unknown secret nor a failed call occurs; and it is an object with one field,
the message of the first bad field, the text of the whole, or the text of the first failed
call. A creation or a confirmation that fails at the provider is answered with 500 and the
text of the provider's fault, if neither a bad field nor an unknown secret occurs in that;
the log has one line about it, the handshake's. -/
theorem fault_mapping (p : Provider σ) (publish : Publish) (counted : Bool) (r : Registry)
    (s : σ) :
    (∀ f : Fault,
      let x := faultResponse f
      ((x.1.status = 400 ↔ f.Has IsInvalid) ∧
        (x.1.status = 404 ↔ ¬ f.Has IsInvalid ∧ Occurs .notFound f) ∧
        (x.1.status = 500 ↔ ¬ f.Has IsInvalid ∧ ¬ Occurs .notFound f)) ∧
      ((x.2.log ≠ [] ↔ ¬ f.Has IsInvalid ∧ ¬ Occurs .notFound f ∧ ¬ f.Has IsCall) ∧
        (x.2.log ≠ [] → x.2.log = [Log.line ("[api] unexpected error: " ++ f.text)])) ∧
      ∃ message, IsObject x.1.body.toList [("error", .text message)] ∧
        (x.1.status = 400 → First IsInvalid (.invalid message) f) ∧
        (x.1.status = 404 → message = f.text) ∧
        (x.1.status = 500 → (∃ g, First IsCall g f ∧ message = g.text) ∨
          ¬ f.Has IsCall ∧ message = f.text)) ∧
    ∀ (e : Fault) (req : Request), ¬ e.Has IsInvalid → ¬ Occurs .notFound e →
      let x := respond (.ofProvider p publish) counted r s req
      (∀ cr params, Route.of req = .found .process → Body.process req.body = .ok cr →
        accept cr = .ok params → (p.create params s).1 = .error e →
        x.response.status = 500 ∧ IsObject x.response.body.toList [("error", .text e.text)] ∧
          x.trace.log = [Log.line ("[handshake] create payment intent error: " ++ e.text)]) ∧
      (∀ cr rec, Route.of req = .found .confirm → Body.confirm req.body = .ok cr →
        (r.find cr.clientSecret).1 = some rec →
        reply p s rec (Text.trim cr.paymentMethod) = .error e →
        x.response.status = 500 ∧ IsObject x.response.body.toList [("error", .text e.text)] ∧
          x.trace.log = attachLog p s rec.id (Text.trim cr.paymentMethod) ++
            [Log.line ("[handshake] confirm payment intent error: " ++ e.text)]) := by
  refine ⟨fun f => ?_, fun e req hfields hfound => ⟨?_, ?_⟩⟩
  · have hmapped := faultResponse_mapped f
    exact ⟨hmapped.status, hmapped.log, hmapped.message⟩
  · intro cr params hroute hbody haccept he
    obtain ⟨hresult, hlog⟩ := create_failed publish r haccept he
    have hserve : serve (.ofProvider p publish) counted r s req .process =
        exchange createdJson (Handshake.create p publish r s cr) := by
      rw [serve, hbody]
      rfl
    rw [← hlog]
    exact respond_failed hroute hserve hresult hfields hfound
  · intro cr rec hroute hbody hfind he
    obtain ⟨hresult, hlog⟩ := confirm_failed publish hfind he
    have hserve : serve (.ofProvider p publish) counted r s req .confirm =
        exchange confirmedJson (Handshake.confirm p publish r s cr) := by
      rw [serve, hbody]
      rfl
    rw [← hlog]
    exact respond_failed hroute hserve hresult hfields hfound

/-- Of two bad fields the one deep in a wrapped cause comes first, and an unknown secret
before both does not count. A payment fails at a provider with two faults at once, one of them
with a failed call inside: the answer is the text of both, and the line of the attach, which
failed too, stands before the handshake's. -/
theorem fault_mapping_deep :
    let f : Fault := .joined [.notFound, .wrapped "charge: " (.call "c" (some (.invalid "bad")))
      "!", .invalid "worse"]
    let e : Fault := .joined [.remote "confirm" "" "" 500 (some (.call "inner" none)), .canceled]
    let script : Script := ⟨.error e, .error e, some (.plain "gone")⟩
    let r := (Registry.new 2 1000).put "pi_1" Status.requiresAction "s1"
    let payment : Request := ⟨"POST", "/payments/confirm", [],
      Text.Utf8.bytes ("\x7b\"payment_intent_client_secret\":\"s1\"," ++
        "\"payment_method_id\":\"pm_1\"\x7d")⟩
    let x := respond (.ofProvider Script.provider fun _ => none) true r script payment
    First IsInvalid (.invalid "bad") f ∧ (faultResponse f).1.status = 400 ∧
      x.response.status = 500 ∧
      IsObject x.response.body.toList [("error", .text "inner failed\ncontext canceled")] ∧
      x.trace.log = ["[handshake] attach pm_1 to intent pi_1 failed, proceeding to confirm: gone",
        "[handshake] confirm payment intent error: inner failed\ncontext canceled"] := by
  intro f e script r payment x
  obtain ⟨hmap, hfailed⟩ := fault_mapping Script.provider (fun _ => none) true r script
  have hfirst : First IsInvalid (.invalid "bad") f := by
    refine @First.joined IsInvalid _ [.notFound] [.invalid "worse"] _ nofun ?_
      (.wrapped nofun (.call nofun (.here ⟨_, rfl⟩)))
    rintro g hg ⟨h, hoccurs, m, rfl⟩
    cases List.mem_singleton.mp hg
    cases hoccurs
  have hfields : ¬ e.Has IsInvalid := Fault.invalid?_eq_none (by decide +kernel)
  have hfound : ¬ Occurs .notFound e := by
    rw [← Fault.isNotFound_iff]
    decide +kernel
  obtain ⟨-, hconfirm⟩ := hfailed e payment hfields hfound
  have hbody : Body.confirm payment.body = .ok ⟨"s1", "pm_1"⟩ := by decide +kernel
  obtain ⟨hstatus, hobject, hlog⟩ := hconfirm ⟨"s1", "pm_1"⟩ ⟨"pi_1", Status.requiresAction, "s1"⟩
    (by decide +kernel) hbody (by decide +kernel) (reply_script _ _ _)
  have htext : e.text = "inner failed\ncontext canceled" := by decide +kernel
  rw [htext] at hobject hlog
  refine ⟨hfirst, (hmap f).1.1.mpr hfirst.has, hstatus, hobject, hlog.trans ?_⟩
  decide +kernel

end Gateway
end PaymentGateway
