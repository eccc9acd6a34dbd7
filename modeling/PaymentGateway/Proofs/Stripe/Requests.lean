/-
# Requests to Stripe say what was asked, and nothing else

At the public server the address of an operation is read part by part and written as it was
(`Address.parse_public`, `Address.render_public`): the caller's text in it is escaped, so it is
one segment of the path and starts neither a query nor a fragment. An operation therefore sends
its request as it is, once, whatever comes back (`perform_sends`). The form of the request is
read back pair by pair and the segment as the caller's text (`request_says`), and what can be read
back tells the operations apart (`Says.unique`).

Key definitions: `Address.IsPlainPath`, `Stripe.Operation.perform`, `Stripe.Says`.
Key theorems: `Stripe.perform_sends`, `Stripe.Says.unique`, `Stripe.requests_exact`.
-/
import PaymentGateway.Proofs.Number.Digits
import PaymentGateway.Proofs.Url.Form
import PaymentGateway.Stripe.Adapter

namespace PaymentGateway

/-! ### Addresses at the public server -/

namespace Address

/-- A path whose segments hold kept characters only, with escapes that can be undone. -/
structure IsPlainPath (path : List Char) : Prop where
  plain : ∀ c ∈ path, c = '/' ∨ Percent.isKept c = true
  spelled : ∃ bs, Percent.bytes? path = some bs

namespace IsPlainPath

variable {path more : List Char}

theorem notMem (h : IsPlainPath path) {x : Char} (hslash : x ≠ '/')
    (hkept : Percent.isKept x = false) : x ∉ path := by
  intro hmem
  rcases h.plain x hmem with rfl | hx
  · exact hslash rfl
  · rw [hkept] at hx
    cases hx

theorem append (h : IsPlainPath path) (hmore : IsPlainPath more) : IsPlainPath (path ++ more) where
  plain := List.forall_mem_append.mpr ⟨h.plain, hmore.plain⟩
  spelled := by
    obtain ⟨as, has⟩ := h.spelled
    obtain ⟨bs, hbs⟩ := hmore.spelled
    exact ⟨as ++ bs, Percent.bytes?_append has hbs⟩

/-- Whether a path is plain can be seen. -/
theorem of_all (hplain : path.all (fun c => c = '/' || Percent.isKept c) = true)
    (hspelled : (Percent.bytes? path).isSome = true) : IsPlainPath path where
  plain c hc := by simpa using List.all_eq_true.mp hplain c hc
  spelled := Option.isSome_iff_exists.mp hspelled

theorem slash : IsPlainPath ['/'] := .of_all (by decide) (by decide)

theorem escape (s : String) : IsPlainPath (Percent.escape s) where
  plain c hc := Or.inr (Percent.escape_kept s c hc)
  spelled := Percent.exists_bytes?_escape s.toList

end IsPlainPath

theorem not_control {c : Char} (h : c = '/' ∨ Percent.isKept c = true) : isControl c = false := by
  have hall : ∀ n < 128, isControl (Char.ofNat n) = true →
      ¬(Char.ofNat n = '/' ∨ Percent.isKept (Char.ofNat n) = true) := by decide
  rw [← Bool.not_eq_true]
  intro hcontrol
  have hsmall : c.toNat < 128 := by
    simp only [isControl, Bool.or_eq_true, decide_eq_true_eq] at hcontrol
    omega
  refine hall c.toNat hsmall ?_ ?_ <;> rwa [Char.ofNat_toNat]

theorem spelledWell {path : List Char} (h : IsPlainPath path) :
    isSpelledWell isPathChar path = true := by
  rw [isSpelledWell, List.all_eq_true]
  intro c hc
  rcases h.plain c hc with rfl | hkept
  · decide
  · simp only [Percent.isKept, Bool.or_eq_true, decide_eq_true_eq] at hkept
    rcases hkept with (hplain | rfl) | rfl
    · simp only [isPathChar, hplain, Bool.true_or]
    · decide
    · decide

/-- The address of a path at the public server. -/
def atPublic (path : List Char) : Address :=
  { blank with
    scheme := "https", hostBytes := Text.Utf8.bytes "api.stripe.com", spelledPath := '/' :: path }

theorem hierarchy_public {path : List Char} (h : IsPlainPath path) :
    hierarchy false { blank with scheme := "https" } ("//api.stripe.com/".toList ++ path) =
      .ok (atPublic path) := by
  obtain ⟨bs, hbs⟩ := (IsPlainPath.slash.append h).spelled
  have hpath (a : Address) :
      a.withPath ('/' :: path) = .ok { a with spelledPath := '/' :: path } := by
    rw [withPath, unescape, show Percent.bytes? ('/' :: path) = some bs from hbs]
    rfl
  exact hpath { blank with scheme := "https", hostBytes := Text.Utf8.bytes "api.stripe.com" }

theorem parseBody_public {path : List Char} (h : IsPlainPath path) :
    parseBody false ("https://api.stripe.com/".toList ++ path) = .ok (atPublic path) := by
  have hcontrol : ("https://api.stripe.com/".toList ++ path).any isControl = false := by
    have hpath : path.any isControl = false :=
      List.any_eq_false.mpr fun c hc => Bool.eq_false_iff.mp (not_control (h.plain c hc))
    rw [List.any_append, hpath]
    decide
  have hstar : "https://api.stripe.com/".toList ++ path ≠ ['*'] := by
    intro hstar
    cases hstar
  have hscheme : takeScheme ("https://api.stripe.com/".toList ++ path) =
      .ok ("https".toList, "//api.stripe.com/".toList ++ path) := rfl
  have hquery : '?' ∉ "//api.stripe.com/".toList ++ path :=
    List.not_mem_append (by decide) (h.notMem (by decide) (by decide))
  rw [parseBody, hcontrol, if_neg Bool.false_ne_true, if_neg hstar, hscheme]
  simp only [bind, Except.bind, Text.cut_of_notMem hquery]
  exact hierarchy_public h

/-- The address of a path at the public server is read part by part. -/
theorem parse_public {path : List Char} (h : IsPlainPath path) :
    parse (String.ofList ("https://api.stripe.com/".toList ++ path)) = .ok (atPublic path) := by
  have hfragment : '#' ∉ "https://api.stripe.com/".toList ++ path :=
    List.not_mem_append (by decide) (h.notMem (by decide) (by decide))
  rw [parse, String.toList_ofList, Text.cut_of_notMem hfragment]
  simp only [parseBody_public h]
  rfl

/-- It is written as it was. -/
theorem render_public {path : List Char} (h : IsPlainPath path) :
    (atPublic path).render = String.ofList ("https://api.stripe.com/".toList ++ path) := by
  have hpath : renderPath false (atPublic path) = '/' :: path :=
    if_pos (spelledWell (IsPlainPath.slash.append h))
  have hauthority : renderAuthority renderUser (atPublic path) = "//api.stripe.com".toList := rfl
  have hscheme : ¬("https" = "") := by decide
  have hfront : "https".toList ++ [':'] ++ ("//api.stripe.com".toList ++ '/' :: path) =
      "https://api.stripe.com/".toList ++ path := rfl
  rw [render, write, hauthority]
  simp only [atPublic, blank] at hpath ⊢
  simp only [hscheme, if_false, List.isEmpty_nil, Bool.not_true, Bool.false_eq_true, if_true,
    List.append_nil]
  rw [show ("https".toList ++ [':']).isEmpty = false from rfl, Bool.false_and, hpath, hfront]

theorem withoutEmptyPort_public (path : List Char) :
    (atPublic path).withoutEmptyPort = atPublic path := rfl

end Address

/-! ### One request for each operation -/

namespace Stripe

variable {account : Account}

namespace Operation

theorem segment_between {front : String} {rest : List Char} (h : front.toList = '/' :: rest)
    (s back : String) : (front ++ segment s ++ back).toList =
      '/' :: (rest ++ Percent.escape s ++ back.toList) := by
  rw [segment, String.toList_append, String.toList_append, String.toList_ofList, h]
  rfl

/-- After its first slash the path of an operation is plain. -/
theorem path_plain (op : Operation) :
    ∃ path, Address.IsPlainPath path ∧ op.path.toList = '/' :: path := by
  cases op with
  | create p =>
    have hplain : Address.IsPlainPath "v1/payment_intents".toList :=
      .of_all (by decide) (by decide)
    have hpath : "/v1/payment_intents".toList = '/' :: "v1/payment_intents".toList := by
      decide +kernel
    exact ⟨_, hplain, hpath⟩
  | confirm id method =>
    have hfront : Address.IsPlainPath "v1/payment_intents/".toList :=
      .of_all (by decide) (by decide)
    have hback : Address.IsPlainPath "/confirm".toList :=
      .of_all (by decide) (by decide)
    exact ⟨_, (hfront.append (.escape id)).append hback,
      segment_between (by decide +kernel) id "/confirm"⟩
  | attach method id =>
    have hfront : Address.IsPlainPath "v1/payment_methods/".toList :=
      .of_all (by decide) (by decide)
    have hback : Address.IsPlainPath "/attach".toList :=
      .of_all (by decide) (by decide)
    exact ⟨_, (hfront.append (.escape method)).append hback,
      segment_between (by decide +kernel) method "/attach"⟩

/-- Performs an operation through the service as a provider: the connection afterwards. -/
def perform {σ : Type} (account : Account) (wire : Wire σ) : Operation → σ → σ
  | create p, s => ((provider account wire).create p s).2
  | confirm id method, s => ((provider account wire).confirm id method s).2
  | attach method id, s => ((provider account wire).attach method id s).2

end Operation

theorem url_public (hserver : account.apiUrl = "") {op : Operation} {path : List Char}
    (hpath : op.path.toList = '/' :: path) :
    (Request.of account op).url = String.ofList ("https://api.stripe.com/".toList ++ path) := by
  have hslash : "https://api.stripe.com/".toList = Account.publicServer.toList ++ ['/'] := by
    decide +kernel
  have hpublic : account.server = Account.publicServer := if_pos hserver
  rw [hslash, List.append_assoc, List.singleton_append, ← hpath, ← String.toList_append,
    String.ofList_toList, ← hpublic]
  rfl

/-- At the public server the request of an operation goes out as it is, once, and what comes back
does not change that. -/
theorem call_sends {σ α : Type} (hserver : account.apiUrl = "") (wire : Wire σ) (op : Operation)
    (read : Dialect → Int → String → Except Trouble α) (s : σ) :
    (call account wire op read s).2 = (wire (Request.of account op) s).2 := by
  obtain ⟨path, hplain, hpath⟩ := op.path_plain
  have hurl := url_public hserver hpath
  have hsame : { Request.of account op with url := (Address.atPublic path).render } =
      Request.of account op := by
    rw [Address.render_public hplain, ← hurl]
  rw [call]
  simp only [hurl, Address.parse_public hplain, Address.withoutEmptyPort_public, hsame]
  split <;> simp only [*]

theorem perform_eq {σ : Type} (hserver : account.apiUrl = "") (wire : Wire σ) (op : Operation)
    (s : σ) : op.perform account wire s = (wire (Request.of account op) s).2 := by
  have hintent (op : Operation) :
      (intentCall account wire op s).2 = (wire (Request.of account op) s).2 := by
    rw [← call_sends hserver wire op Reply.intent s, intentCall]
    split <;> simp only [*]
  cases op with
  | create p => exact hintent (.create p)
  | confirm id method => exact hintent (.confirm id method)
  | attach method id =>
    rw [← call_sends hserver wire (.attach method id) Reply.acknowledge s]
    simp only [Operation.perform, provider]
    split <;> simp only [*]

theorem sent_wire (r : Request) (t : Tape) : (Tape.wire r t).2.sent = t.sent ++ [r] := by
  unfold Tape.wire
  split <;> rfl

/-- **At the public server an operation sends one request, its own**, whatever is answered. -/
theorem perform_sends (hserver : account.apiUrl = "") (op : Operation) (t : Tape) :
    (op.perform account Tape.wire t).sent = t.sent ++ [Request.of account op] := by
  rw [perform_eq hserver, sent_wire]

/-! ### What a request says -/

/-- One segment of a path that stands for a text: it holds no separator, and undoing the escapes
of a form gives the text. -/
def IsSegment (segment : List Char) (s : String) : Prop :=
  (∀ c ∈ ['/', '?', '#', '&'], c ∉ segment) ∧ Percent.unescapeForm? segment = some s

/-- What the request of an operation has to say: its pairs, read back from the form, and the
address with the caller's text as one segment. -/
def Says : Operation → Request → Prop
  | .create p, r =>
    r.url = "https://api.stripe.com/v1/payment_intents" ∧
    Form.decode? r.body = some
      ([("amount", Digits.text p.amount), ("confirm", "false"), ("confirmation_method", "manual"),
        ("currency", p.currency)] ++
        if p.paymentMethod = "" then [] else [("payment_method", p.paymentMethod)])
  | .confirm id method, r =>
    (∃ segment, IsSegment segment id ∧
      r.url = "https://api.stripe.com/v1/payment_intents/" ++ String.ofList segment ++ "/confirm") ∧
    Form.decode? r.body = some (if method = "" then [] else [("payment_method", method)])
  | .attach method id, r =>
    (∃ segment, IsSegment segment method ∧
      r.url = "https://api.stripe.com/v1/payment_methods/" ++ String.ofList segment ++ "/attach") ∧
    Form.decode? r.body = some [("payment_intent", id)]

theorem isSegment_escape (s : String) : IsSegment (Percent.escape s) s := by
  have hkept : ['/', '?', '#', '&'].all (fun c => !Percent.isKept c) = true := by decide
  refine ⟨fun c hc => Percent.notMem_escape s ?_, Percent.unescapeForm?_escape s⟩
  simpa using List.all_eq_true.mp hkept c hc

/-- The address of a path with a segment in it. -/
theorem segment_at {server front whole : String} (h : server ++ front = whole) (s back : String) :
    server ++ (front ++ Operation.segment s ++ back) =
      whole ++ String.ofList (Percent.escape s) ++ back := by
  rw [← h, String.append_assoc, String.append_assoc, String.append_assoc]
  rfl

theorem request_says (hserver : account.apiUrl = "") (op : Operation) :
    Says op (Request.of account op) := by
  have hurl : (Request.of account op).url = Account.publicServer ++ op.path :=
    congrArg (· ++ op.path) (if_pos hserver)
  have hform : Form.decode? (Request.of account op).body = some op.form :=
    Form.decode?_encode op.form
  cases op with
  | create p =>
    have hwhole : Account.publicServer ++ "/v1/payment_intents" =
        "https://api.stripe.com/v1/payment_intents" := by decide +kernel
    exact ⟨hurl.trans hwhole, hform⟩
  | confirm id method =>
    have hwhole : Account.publicServer ++ "/v1/payment_intents/" =
        "https://api.stripe.com/v1/payment_intents/" := by decide +kernel
    exact ⟨⟨_, isSegment_escape id, hurl.trans (segment_at hwhole id _)⟩, hform⟩
  | attach method id =>
    have hwhole : Account.publicServer ++ "/v1/payment_methods/" =
        "https://api.stripe.com/v1/payment_methods/" := by decide +kernel
    exact ⟨⟨_, isSegment_escape method, hurl.trans (segment_at hwhole method _)⟩, hform⟩

theorem methodPair_injective {m m' : String}
    (h : Operation.methodPair m = Operation.methodPair m') : m = m' := by
  unfold Operation.methodPair at h
  split at h <;> split at h <;> simp_all

theorem name_of_mem_methodPair {m : String} {pair : String × String}
    (h : pair ∈ Operation.methodPair m) : pair.1 = "payment_method" := by
  unfold Operation.methodPair at h
  split at h
  · cases h
  · rw [List.mem_singleton.mp h]

/-- The form of an operation is like no form of an operation of another kind. -/
theorem form_ne :
    (∀ p id method, Operation.form (.create p) ≠ Operation.form (.confirm id method)) ∧
    (∀ p method id, Operation.form (.create p) ≠ Operation.form (.attach method id)) ∧
    ∀ id method method' id', Operation.form (.confirm id method) ≠
      Operation.form (.attach method' id') := by
  refine ⟨fun p id method h => ?_, fun p method id h => ?_, fun id method method' id' h => ?_⟩
  · have hmem : ("amount", Digits.text p.amount) ∈ Operation.form (.confirm id method) := by
      rw [← h]
      exact List.mem_cons_self
    have hname : "amount" = "payment_method" := name_of_mem_methodPair hmem
    exact absurd hname (by decide)
  · have hname := congrArg (List.map Prod.fst) h
    simp [Operation.form] at hname
  · have hmem : ("payment_intent", id') ∈ Operation.form (.confirm id method) := by
      rw [h]
      exact List.mem_cons_self
    have hname : "payment_intent" = "payment_method" := name_of_mem_methodPair hmem
    exact absurd hname (by decide)

/-- The text of a segment is told by the address. -/
theorem segment_unique {front back s s' url : String}
    (h : ∃ segment, IsSegment segment s ∧ url = front ++ String.ofList segment ++ back)
    (h' : ∃ segment, IsSegment segment s' ∧ url = front ++ String.ofList segment ++ back) :
    s = s' := by
  obtain ⟨segment, ⟨-, hs⟩, hurl⟩ := h
  obtain ⟨segment', ⟨-, hs'⟩, hurl'⟩ := h'
  have hsame : segment = segment' := by
    have hlist := congrArg String.toList (hurl.symm.trans hurl')
    simpa only [String.toList_append, String.toList_ofList, List.append_left_inj,
      List.append_right_inj] using hlist
  rw [hsame, hs'] at hs
  exact (Option.some.inj hs).symm

theorem Says.form {op : Operation} {r : Request} (h : Says op r) :
    Form.decode? r.body = some op.form := by
  cases op with
  | create p => exact h.2
  | confirm id method => exact h.2
  | attach method id => exact h.2

/-- **A request says one operation only.** -/
theorem Says.unique {op op' : Operation} {r : Request} (h : Says op r) (h' : Says op' r) :
    op = op' := by
  have hforms : op.form = op'.form := Option.some.inj (h.form.symm.trans h'.form)
  obtain ⟨hconfirm, hattach, hother⟩ := form_ne
  cases op with
  | create p =>
    cases op' with
    | create p' =>
      simp only [Operation.form, List.cons_append, List.nil_append, List.cons.injEq, Prod.mk.injEq,
        true_and] at hforms
      obtain ⟨hamount, hcurrency, hmethod⟩ := hforms
      have hparams : p = p' := by
        cases p
        cases p'
        rw [CreateParams.mk.injEq]
        exact ⟨Digits.text_injective hamount, hcurrency, methodPair_injective hmethod⟩
      rw [hparams]
    | confirm id' method' => exact absurd hforms (hconfirm p id' method')
    | attach method' id' => exact absurd hforms (hattach p method' id')
  | confirm id method =>
    cases op' with
    | create p' => exact absurd hforms.symm (hconfirm p' id method)
    | confirm id' method' =>
      rw [segment_unique h.1 h'.1, methodPair_injective hforms]
    | attach method' id' => exact absurd hforms (hother id method method' id')
  | attach method id =>
    cases op' with
    | create p' => exact absurd hforms.symm (hattach p' method id)
    | confirm id' method' => exact absurd hforms.symm (hother id' method' method id)
    | attach method' id' =>
      simp only [Operation.form, List.cons.injEq, Prod.mk.injEq, true_and, and_true] at hforms
      rw [segment_unique h.1 h'.1, hforms]

/-- **A request to the public server carries what was asked and nothing else**: an operation sends
one POST request whatever is answered, its form is read back as the intended pairs and its address
is the operation's with the caller's text as one segment; and different operations send different
requests. -/
theorem requests_exact (hserver : account.apiUrl = "") :
    (∀ (op : Operation) (t : Tape), ∃ r, (op.perform account Tape.wire t).sent = t.sent ++ [r] ∧
      r.method = "POST" ∧ Says op r) ∧
    ∀ (op op' : Operation) (t t' : Tape) (r r' : Request),
      (op.perform account Tape.wire t).sent = t.sent ++ [r] →
      (op'.perform account Tape.wire t').sent = t'.sent ++ [r'] → op ≠ op' → r ≠ r' := by
  refine ⟨fun op t => ⟨_, perform_sends hserver op t, rfl, request_says hserver op⟩, ?_⟩
  intro op op' t t' r r' hr hr' hne hsame
  have hsaid {op : Operation} {t : Tape} {r : Request}
      (h : (op.perform account Tape.wire t).sent = t.sent ++ [r]) : Says op r := by
    rw [perform_sends hserver op t, List.append_cancel_left_eq, List.cons.injEq] at h
    exact h.1 ▸ request_says hserver op
  subst hsame
  exact hne (Says.unique (hsaid hr) (hsaid hr'))

/-- Separators, an escape, a plus sign and a character of several bytes: the connection fails, yet
the request was sent and says what was asked, and a payment method that looks like a second pair
is not taken for one. -/
theorem requests_exact_separators :
    let account : Account := ⟨"sk_test", "", 0⟩
    let op : Operation := .confirm "pi/1?a=b&c#%2F+é" "pm&payment_intent=pi"
    let op' : Operation := .confirm "pi/1?a=b&c#%2F+é" "pm"
    let t : Tape := ⟨[.unreachable "reset"], []⟩
    (∃ r, (op.perform account Tape.wire t).sent = [] ++ [r] ∧ r.method = "POST" ∧ Says op r) ∧
    ∀ r r', (op.perform account Tape.wire t).sent = [] ++ [r] →
      (op'.perform account Tape.wire t).sent = [] ++ [r'] → r ≠ r' :=
  have h := @requests_exact ⟨"sk_test", "", 0⟩ rfl
  ⟨h.1 _ _, fun r r' hr hr' => h.2 _ _ _ _ r r' hr hr' (by decide)⟩

end Stripe
end PaymentGateway
