/-
# The secret that is handed out works

A purchase that is answered with 200 hands out the client secret and the status of the
new intent, whatever characters they hold, and nothing else. Right after it, a payment
whose body names that secret reaches the provider with the id of the intent. The body
may be any JSON object that has the secret and no other field, or that has a payment
method too, before the secret or after it: with any blanks, and with any spelling of the
names and the texts (`Http.Body.Asks`). When the provider confirms, the answer is its
status, and also the secret if the customer has to act (`secret_works`).

The secret comes back through the whole gateway: it is written, read again from another
spelling, and looked up in the registry, where the record that was just put is found
even if it had to push out another (`Registry.find_put`).

Key definition: `Http.Body.Asks`.
Key theorems: `Http.Body.confirm_asks`, `Gateway.process_answered`,
`Gateway.confirm_answered`, `Gateway.secret_works`.
-/
import PaymentGateway.Proofs.Gateway.Effects
import PaymentGateway.Proofs.Json.Object
import PaymentGateway.Proofs.Text.Utf8

namespace PaymentGateway

open Json (IsObject Member Datum)

/-! ### Bodies that ask for a confirmation -/

namespace Http.Body

/-- **The body asks to confirm a secret with a payment method** ("" for none): a JSON
object with the two fields in either order, or with the secret alone. -/
inductive Asks (secret : String) : String → List Char → Prop where
  | bare {text : List Char}
    (object : IsObject text [("payment_intent_client_secret", .text secret)]) : Asks secret "" text
  | methodLast {method : String} {text : List Char}
    (object : IsObject text
      [("payment_intent_client_secret", .text secret), ("payment_method_id", .text method)]) :
    Asks secret method text
  | methodFirst {method : String} {text : List Char}
    (object : IsObject text
      [("payment_method_id", .text method), ("payment_intent_client_secret", .text secret)]) :
    Asks secret method text

/-- A key names a field by the text that it denotes. -/
theorem named_eq {key : List Char} {name : String} (h : Json.Spelling.Denotes key name.toList)
    (other : String) : Json.Field.named other key =
      (name.toList.map Json.Field.foldChar == other.toList.map Json.Field.foldChar) := by
  rw [Json.Field.named, Json.denotes_value h]

theorem text_says {v : Json} {s : String} (h : Json.Says v (.text s)) (old : String) :
    Json.Field.text old v = some s := by
  cases h with
  | text literal => rw [Json.Field.text, Json.denotes_value literal]

theorem takeConfirm_secret {m : List Char × Json} {secret : String}
    (h : Member m ("payment_intent_client_secret", .text secret)) (req : Handshake.ConfirmRequest) :
    takeConfirm req m.1 m.2 = some { req with clientSecret := secret } := by
  have hnamed : Json.Field.named "payment_intent_client_secret" m.1 = true :=
    (named_eq h.1 _).trans (beq_self_eq_true _)
  rw [takeConfirm, if_pos hnamed, text_says h.2, Option.map_some]

theorem takeConfirm_method {m : List Char × Json} {method : String}
    (h : Member m ("payment_method_id", .text method)) (req : Handshake.ConfirmRequest) :
    takeConfirm req m.1 m.2 = some { req with paymentMethod := method } := by
  have hdiffer : ("payment_method_id".toList.map Json.Field.foldChar ==
      "payment_intent_client_secret".toList.map Json.Field.foldChar) = false := by decide
  have hother : Json.Field.named "payment_intent_client_secret" m.1 = false :=
    (named_eq h.1 _).trans hdiffer
  have hnamed : Json.Field.named "payment_method_id" m.1 = true :=
    (named_eq h.1 _).trans (beq_self_eq_true _)
  rw [takeConfirm, hother, if_neg Bool.false_ne_true, if_pos hnamed, text_says h.2,
    Option.map_some]

/-- A body within the limit is read as the members of its object. -/
theorem first_encode {text : List Char} {fields : List (String × Datum)}
    (h : IsObject text fields) (hlen : (Text.Utf8.encode text).length ≤ limit) :
    ∃ ms, List.Forall₂ Member ms fields ∧ first (Text.Utf8.encode text) = .ok (.object ms) := by
  obtain ⟨ms, hms, hread⟩ := h.finish?_eq
  refine ⟨ms, hms, ?_⟩
  rw [first, if_pos hlen, Text.Utf8.decode_encode, hread]

/-- A body whose value makes a request is read as it. -/
theorem read_of_first {α : Type} {ofJson? : Json → Option α} {body : List UInt8} {v : Json} {a : α}
    (hfirst : first body = .ok v) (ha : ofJson? v = some a) : read ofJson? body = .ok a := by
  simp only [read, hfirst, bind, Except.bind, ha]

/-- A body whose members make a confirmation is read as it. -/
theorem confirm_of_members {body : List UInt8} {ms : List (List Char × Json)}
    {req : Handshake.ConfirmRequest} (hfirst : first body = .ok (.object ms))
    (htake : ms.foldlM (fun a m => takeConfirm a m.1 m.2) ⟨"", ""⟩ = some req) :
    confirm body = .ok req :=
  read_of_first hfirst htake

/-- **A body that asks for a confirmation is read as one.** -/
theorem confirm_asks {secret method : String} {text : List Char} (h : Asks secret method text)
    (hlen : (Text.Utf8.encode text).length ≤ limit) :
    confirm (Text.Utf8.encode text) = .ok ⟨secret, method⟩ := by
  cases h with
  | bare object =>
    obtain ⟨_, _ | ⟨hsecret, _ | _⟩, hfirst⟩ := first_encode object hlen
    apply confirm_of_members hfirst
    rw [List.foldlM_cons, takeConfirm_secret hsecret]
    rfl
  | methodLast object =>
    obtain ⟨_, _ | ⟨hsecret, _ | ⟨hmethod, _ | _⟩⟩, hfirst⟩ := first_encode object hlen
    apply confirm_of_members hfirst
    rw [List.foldlM_cons, takeConfirm_secret hsecret, Option.bind_eq_bind, Option.bind_some,
      List.foldlM_cons, takeConfirm_method hmethod]
    rfl
  | methodFirst object =>
    obtain ⟨_, _ | ⟨hmethod, _ | ⟨hsecret, _ | _⟩⟩, hfirst⟩ := first_encode object hlen
    apply confirm_of_members hfirst
    rw [List.foldlM_cons, takeConfirm_method hmethod, Option.bind_eq_bind, Option.bind_some,
      List.foldlM_cons, takeConfirm_secret hsecret]
    rfl

end Http.Body

@[simp] theorem Http.Response.withFields_status (r : Http.Response) (fields : Http.Fields) :
    (r.withFields fields).status = r.status := rfl

@[simp] theorem Http.Response.withFields_body (r : Http.Response) (fields : Http.Fields) :
    (r.withFields fields).body = r.body := rfl

/-- An action is asked for by the status, or is pending. -/
theorem Intent.requiresAction_iff (i : Intent) :
    i.requiresAction = true ↔ i.status = "requires_action" ∨ i.nextAction.isSome := by
  have hstatus : IntentState.ofStatus i.status = .actionRequired ↔
      i.status = "requires_action" := by
    constructor
    · intro h
      by_contra hne
      have hother : i.status ≠ Status.requiresAction := hne
      unfold IntentState.ofStatus at h
      rw [if_neg hother] at h
      split_ifs at h
    · intro h
      rw [h]
      decide
  rw [requiresAction, Bool.or_eq_true, decide_eq_true_eq, hstatus]

namespace Gateway

open Http Handshake

variable {σ : Type}

/-! ### Operations that succeed -/

theorem faultResponse_ne_ok (f : Fault) : (faultResponse f).1.status ≠ 200 := by
  unfold faultResponse
  split
  · exact Nat.ne_of_gt (by decide : 200 < 400)
  · split
    · exact Nat.ne_of_gt (by decide : 200 < 404)
    · split <;> exact Nat.ne_of_gt (by decide : 200 < 500)

theorem exchange_calls {α : Type} (document : α → Json) (o : Outcome σ α) :
    (exchange document o).trace.calls = o.trace.calls := by
  unfold exchange
  split
  · rfl
  · show (o.trace ++ _).calls = _
    rw [Trace.calls_append, faultResponse_calls, List.append_nil]

theorem exchange_ok {α : Type} (document : α → Json) {o : Outcome σ α} {a : α}
    (h : o.result = .ok a) : (exchange document o).response = .json 200 (document a) := by
  simp only [exchange, h]

/-- Only an operation that succeeds is answered with 200. -/
theorem operate_ok {α β : Type} {r : Registry} {s : σ} {document : β → Json}
    {op : Registry → σ → α → Outcome σ β} {body : Except Body.Refusal α}
    (h : (operate r s document op body).response.status = 200) :
    ∃ req a, body = .ok req ∧ (op r s req).result = .ok a ∧
      (operate r s document op body).response = .json 200 (document a) ∧
      (operate r s document op body).registry = (op r s req).registry := by
  cases body with
  | error refusal => cases refusal <;> cases h
  | ok req =>
    have hexchange : operate r s document op (.ok req) = exchange document (op r s req) := rfl
    rw [hexchange] at h ⊢
    cases hresult : (op r s req).result with
    | ok a =>
      exact ⟨req, a, rfl, hresult, exchange_ok document hresult, exchange_registry document _⟩
    | error f =>
      simp only [exchange, hresult] at h
      exact absurd h (faultResponse_ne_ok f)

/-! ### The documents that are handed out -/

theorem createdJson_isObject (c : Created) :
    IsObject ((createdJson c).render ++ "\n").toList
      [("client_secret", .text c.clientSecret), ("status", .text c.status)] :=
  Json.isObject_render
    (.cons ⟨rfl, Json.says_ofText _⟩ (.cons ⟨rfl, Json.says_ofText _⟩ .nil))

/-- The fields of the answer to a payment, for the intent that the provider replies with:
the secret is there when the customer has to act, and then only. -/
def confirmedFields (secret : String) (i : Intent) : List (String × Datum) :=
  ("status", .text i.status) ::
    if i.status = "requires_action" ∨ i.nextAction.isSome then
      [("requires_action", .flag true), ("client_secret", .text secret)]
    else []

theorem confirmedJson_isObject {rec : Record} (hs : rec.clientSecret ≠ "")
    (outcome : AttachOutcome) (i : Intent) :
    IsObject ((confirmedJson (confirmedResult rec outcome i)).render ++ "\n").toList
      (confirmedFields rec.clientSecret i) := by
  have hstatus := Json.says_ofText i.status
  have hiff := i.requiresAction_iff
  unfold confirmedFields
  by_cases hact : i.requiresAction = true
  · have hjson : confirmedJson (confirmedResult rec outcome i) = Json.ofMembers
        [("status", Json.ofText i.status), ("requires_action", .bool true),
          ("client_secret", Json.ofText rec.clientSecret)] := by
      simp only [confirmedJson, confirmedResult, hact, ↓reduceIte, hs]
      rfl
    rw [hjson, if_pos (hiff.mp hact)]
    exact Json.isObject_render (.cons ⟨rfl, hstatus⟩
      (.cons ⟨rfl, .flag true⟩ (.cons ⟨rfl, Json.says_ofText _⟩ .nil)))
  · have hjson : confirmedJson (confirmedResult rec outcome i) =
        Json.ofMembers [("status", Json.ofText i.status)] := by
      simp only [confirmedJson, confirmedResult, hact, ↓reduceIte, Bool.false_eq_true]
      rfl
    rw [hjson, if_neg fun h => hact (hiff.mpr h)]
    exact Json.isObject_render (.cons ⟨rfl, hstatus⟩ .nil)

/-! ### A purchase and a payment -/

section Scripted

variable {publish : Publish} {counted : Bool} {r : Registry} {script : Script}

theorem create_script {i : Intent} (hi : script.create = .ok i) {req : CreateRequest}
    {c : Created} (h : (Handshake.create Script.provider publish r script req).result = .ok c) :
    c = ⟨i.clientSecret, i.status⟩ ∧
      (Handshake.create Script.provider publish r script req).registry =
        r.put i.id i.status i.clientSecret := by
  cases haccept : accept req with
  | error f =>
    simp only [Handshake.create, haccept] at h
    cases h
  | ok params =>
    simp only [Handshake.create, haccept, Script.provider, hi] at h ⊢
    cases h
    exact ⟨rfl, trivial⟩

/-- **What a purchase hands out and puts on record**, when it is answered with 200. -/
theorem process_answered {i : Intent} (hi : script.create = .ok i) {purchase : Request}
    (hroute : Route.of purchase = .found .process)
    (hok : (respond (.ofProvider Script.provider publish) counted r script
      purchase).response.status = 200) :
    IsObject (respond (.ofProvider Script.provider publish) counted r script
        purchase).response.body.toList
      [("client_secret", .text i.clientSecret), ("status", .text i.status)] ∧
    (respond (.ofProvider Script.provider publish) counted r script purchase).registry =
      r.put i.id i.status i.clientSecret := by
  obtain ⟨hresponse, hregistry, -⟩ :=
    respond_found (.ofProvider Script.provider publish) counted r script hroute
  have hserve : serve (.ofProvider Script.provider publish) counted r script purchase .process =
      operate r script createdJson (Handshake.create Script.provider publish)
        (Body.process purchase.body) := rfl
  rw [hserve] at hresponse hregistry
  rw [hresponse, Response.withFields_status] at hok
  obtain ⟨req, c, -, hresult, hjson, hput⟩ := operate_ok hok
  obtain ⟨rfl, hrecord⟩ := create_script hi hresult
  rw [hresponse, Response.withFields_body, hjson, hregistry, hput, hrecord]
  exact ⟨createdJson_isObject _, rfl⟩

/-- A payment for a secret on record confirms the record. -/
theorem serve_confirm {rec : Record} {secret : String} {payment : Request} {method : String}
    (hfind : (r.find secret).1 = some rec)
    (hread : Body.confirm payment.body = .ok ⟨secret, method⟩) :
    serve (.ofProvider Script.provider publish) counted r script payment .confirm =
      exchange confirmedJson (confirmRecord Script.provider publish (r.find secret).2 script rec
        (Text.trim method)) := by
  have hresolved := confirm_resolved Script.provider publish script
    (show (r.find (ConfirmRequest.mk secret method).clientSecret).1 = some rec from hfind)
  rw [serve, hread]
  exact congrArg (exchange confirmedJson) hresolved

/-- **What a payment does** whose body names a secret on record. -/
theorem confirm_answered {id status secret : String} {payment : Request} {text : List Char}
    {method : String} (hfind : (r.find secret).1 = some ⟨id, status, secret⟩)
    (hroute : Route.of payment = .found .confirm) (hbody : payment.body = Text.Utf8.encode text)
    (hlen : payment.body.length ≤ Body.limit) (hasks : Body.Asks secret method text) :
    (respond (.ofProvider Script.provider publish) counted r script payment).trace.calls =
        (if Text.trim method = "" then [] else [.attach id (Text.trim method)]) ++
          [.confirm id (Text.trim method)] ∧
      ∀ j, script.confirm = .ok j →
        (respond (.ofProvider Script.provider publish) counted r script payment).response.status =
          200 ∧
        IsObject (respond (.ofProvider Script.provider publish) counted r script
          payment).response.body.toList (confirmedFields secret j) := by
  have hs : secret ≠ "" := (Registry.find_eq_some_iff.mp hfind).1
  have hread : Body.confirm payment.body = .ok ⟨secret, method⟩ := by
    rw [hbody] at hlen ⊢
    exact Body.confirm_asks hasks hlen
  obtain ⟨hresponse, -, htrace⟩ :=
    respond_found (.ofProvider Script.provider publish) counted r script hroute
  rw [serve_confirm hfind hread] at hresponse htrace
  rw [hresponse, htrace, Response.withFields_status, Response.withFields_body]
  refine ⟨?_, fun j hj => ?_⟩
  · rw [exchange_calls, confirmRecord_calls]
  · have hreply := (reply_script ⟨id, status, secret⟩ (Text.trim method) script).trans hj
    have hresult := (confirmRecord_ok Script.provider publish (r.find secret).2 script _
      (Text.trim method) hreply).1
    rw [exchange_ok confirmedJson hresult]
    exact ⟨rfl, confirmedJson_isObject hs _ j⟩

end Scripted

/-- **The secret that is handed out works**, in every state that a gateway reaches with
any bounds of its registry. A purchase that is answered with 200 hands out the secret
and the status of the intent that the provider has opened, and no other field. Right
after it, a payment within the limit whose body names the secret has the provider
confirm the intent of that id. If the provider does, the answer is 200 with its status,
and with the secret and the flag exactly if the customer has to act. -/
theorem secret_works (capacity ttl : Int) (start : Script) (counted : Bool)
    (ops : List (Op Script)) (publish publish' : Publish) (script script' : Script) (i : Intent)
    (hi : script.create = .ok i) (hsecret : i.clientSecret ≠ "") (purchase : Request)
    (hpurchase : Route.of purchase = .found .process) :
    let r := (run Script.provider counted ⟨Registry.new capacity ttl, start⟩ ops).registry
    let x := respond (.ofProvider Script.provider publish) counted r script purchase
    x.response.status = 200 →
      IsObject x.response.body.toList
        [("client_secret", .text i.clientSecret), ("status", .text i.status)] ∧
      ∀ (payment : Request) (text : List Char) (method : String),
        Route.of payment = .found .confirm → payment.body = Text.Utf8.encode text →
        payment.body.length ≤ Body.limit → Body.Asks i.clientSecret method text →
        let y := respond (.ofProvider Script.provider publish') counted x.registry script' payment
        y.trace.calls = (if Text.trim method = "" then [] else [.attach i.id (Text.trim method)]) ++
            [.confirm i.id (Text.trim method)] ∧
          ∀ j, script'.confirm = .ok j → y.response.status = 200 ∧
            IsObject y.response.body.toList
              (("status", .text j.status) ::
                if j.status = "requires_action" ∨ j.nextAction.isSome then
                  [("requires_action", .flag true), ("client_secret", .text i.clientSecret)]
                else []) := by
  intro r x hok
  obtain ⟨hobject, hregistry⟩ := process_answered hi hpurchase hok
  refine ⟨hobject, fun payment text method hroute hbody hlen hasks => ?_⟩
  have hcoherent : Registry.Coherent r.tables :=
    run_coherent Script.provider counted capacity ttl start ops
  have hfind : (x.registry.find i.clientSecret).1 = some ⟨i.id, i.status, i.clientSecret⟩ := by
    rw [hregistry]
    exact Registry.find_put hcoherent i.id i.status hsecret
  exact confirm_answered hfind hroute hbody hlen hasks

/-- A purchase whose secret has a mark of the page, an astral character and a quote, in a
registry with room for one record. The payment spells the secret with a code, a pair of
surrogates and a letter, and has its payment method first. The customer has to act,
though the status does not say so. -/
theorem secret_works_escaped :
    let i : Intent := ⟨"pi_é", "s<😀\"", Status.requiresConfirmation, none⟩
    let script : Script :=
      ⟨.ok i, .ok ⟨"pi_2", "s2", Status.processing, some "redirect_to_url"⟩, none⟩
    let purchase : Request := ⟨"POST", "/payments/process", [],
      Text.Utf8.bytes "\x7b\"amount\":10,\"currency\":\"usd\"\x7d"⟩
    let text := ("\n\x7b \"payment_method_id\":\" pm_1\" ,\t\"payment_intent_client_secret\" : " ++
      "\"\\u0073<\\ud83D\\uDE00\\\"\"\r\x7d ").toList
    let payment : Request := ⟨"POST", "/payments/confirm", [], Text.Utf8.encode text⟩
    let start : Session Script := ⟨Registry.new 1 1000, script⟩
    let x := respond (.ofProvider Script.provider fun _ => none) true
      (run Script.provider true start []).registry script purchase
    let y := respond (.ofProvider Script.provider fun _ => none) true x.registry script payment
    x.response.status = 200 ∧ Body.Asks i.clientSecret " pm_1" text ∧
      y.trace.calls = [.attach "pi_é" "pm_1", .confirm "pi_é" "pm_1"] ∧
      IsObject y.response.body.toList [("status", .text "processing"),
        ("requires_action", .flag true), ("client_secret", .text "s<😀\"")] := by
  intro i script purchase text payment start x y
  have hpurchase : Route.of purchase = .found .process := by decide +kernel
  have hpayment : Route.of payment = .found .confirm := by decide +kernel
  have hok : x.response.status = 200 := by decide +kernel
  have hlen : payment.body.length ≤ Body.limit := by decide +kernel
  let spelled := "\\u0073<\\ud83D\\uDE00\\\"".toList
  have hsecret : Json.Spelling.Denotes spelled i.clientSecret.toList := by
    have hspelled : spelled = ['\\', 'u', '0', '0', '7', '3', '<', '\\', 'u', 'd', '8', '3', 'D',
      '\\', 'u', 'D', 'E', '0', '0', '\\', '"'] := by decide
    have htoList : i.clientSecret.toList = ['s', '<', '😀', '"'] := by decide
    rw [hspelled, htoList]
    exact .code ⟨0, 0, 7, 3, rfl, rfl, rfl, rfl, rfl⟩
      (.plain (by decide) (by decide) (by decide)
        (.pair (by decide) ⟨13, 8, 3, 13, rfl, rfl, rfl, rfl, rfl⟩
          ⟨13, 14, 0, 0, rfl, rfl, rfl, rfl, rfl⟩ (.letter (by decide) .nil)))
  let ms : List (List Char × Json) :=
    [(Json.Spelling.ofText "payment_method_id", Json.ofText " pm_1"),
      (Json.Spelling.ofText "payment_intent_client_secret", .string spelled)]
  have hmembers : List.Forall₂ Member ms [("payment_method_id", .text " pm_1"),
      ("payment_intent_client_secret", .text i.clientSecret)] :=
    .cons ⟨Json.Spelling.denotes_ofText _, Json.says_ofText _⟩
      (.cons ⟨Json.Spelling.denotes_ofText _, .text hsecret⟩ .nil)
  -- the nine tokens, with the blanks before each
  have htext : Json.IsText (.object ms) text :=
    ⟨_, [' '], @Json.Spaced.token ['\n'] _ _ _ rfl (@Json.Spaced.token [' '] _ _ _ rfl
      (@Json.Spaced.token [] _ _ _ rfl (@Json.Spaced.token [] _ _ _ rfl
      (@Json.Spaced.token [' '] _ _ _ rfl (@Json.Spaced.token ['\t'] _ _ _ rfl
      (@Json.Spaced.token [' '] _ _ _ rfl (@Json.Spaced.token [' '] _ _ _ rfl
      (@Json.Spaced.token ['\r'] _ _ _ rfl .nil)))))))), rfl, by decide +kernel⟩
  have hasks : Body.Asks i.clientSecret " pm_1" text := .methodFirst ⟨ms, hmembers, htext⟩
  obtain ⟨-, hpaid⟩ := secret_works 1 1000 script true [] (fun _ => none) (fun _ => none) script
    script i rfl (by decide) purchase hpurchase hok
  obtain ⟨hcalls, hanswer⟩ := hpaid payment text " pm_1" hpayment rfl hlen hasks
  have htrim : Text.trim " pm_1" = "pm_1" := by decide +kernel
  rw [htrim] at hcalls
  refine ⟨hok, hasks, hcalls, ?_⟩
  have hfields := (hanswer _ rfl).2
  exact hfields

end Gateway
end PaymentGateway
