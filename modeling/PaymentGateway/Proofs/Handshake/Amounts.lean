/-
# Which amounts reach the provider

An amount is a double, read here as the exact number it stands for. It is payable if it is
at least one half and below `2 ^ 63` (`Payable`), and then the provider is asked for the
nearest whole number, a half upwards. Everything else is refused before the provider is
asked, for one of three reasons: no amount or no currency (`Wanting`), an amount beyond the
range (`Excessive`), or an amount that is not a number above zero or rounds to none.

The only place where the format of the doubles matters is the upper bound: no double below
`2 ^ 63` is rounded up to it (`Binary64.floor_lt_iff`).

Key definitions: `Handshake.Payable`, `Handshake.Excessive`, `Handshake.Wanting`.
Key theorems: `Handshake.minorUnits_payable`, `Handshake.create_amount_exact`.
-/
import PaymentGateway.Proofs.Handshake.Session
import PaymentGateway.Proofs.Number.Dyadic
import PaymentGateway.Sandbox

namespace PaymentGateway

theorem Binary64.isZero_iff {x : Binary64} : x.isZero = true ↔ x.value? = some 0 := by
  cases x with
  | nan => simp [isZero, value?]
  | infinite negative => simp [isZero, value?]
  | finite negative m e =>
    cases negative <;> cases m <;> simp [isZero, value?, dyadic_eq_zero_iff]

namespace Handshake

/-- The amount is a number that the provider can be asked for. -/
def Payable (amount : Binary64) (x : ℚ) : Prop := amount.value? = some x ∧ 1 / 2 ≤ x ∧ x < 2 ^ 63

/-- The amount is beyond the range of whole units. -/
def Excessive (amount : Binary64) : Prop :=
  amount = .infinite false ∨ ∃ x, amount.value? = some x ∧ 2 ^ 63 ≤ x

/-- There is no amount, or no currency. -/
def Wanting (amount : Binary64) (currency : String) : Prop :=
  amount.value? = some 0 ∨ currency = ""

/-! ### Whole units -/

variable {amount : Binary64}

/-- A number that is not negative has the sign of one. -/
theorem eq_finite_of_pos {x : ℚ} (hx : amount.value? = some x) (hpos : 0 < x) :
    ∃ m e, amount = .finite false m e ∧ Binary64.dyadic m e = x := by
  cases amount with
  | nan => cases hx
  | infinite negative => cases hx
  | finite negative m e =>
    cases negative with
    | false => exact ⟨m, e, rfl, Option.some.inj hx⟩
    | true =>
      have hneg := Option.some.inj hx
      have hnonneg := Binary64.dyadic_nonneg m e
      linarith

theorem minorUnits_finite (m : Nat) (e : Int) :
    minorUnits (.finite false m e) =
      if ⌊Binary64.dyadic m e + 1 / 2⌋ < 1 then .error (.invalid positiveMessage)
      else if 2 ^ 63 ≤ ⌊Binary64.dyadic m e + 1 / 2⌋ then .error (.invalid tooLargeMessage)
      else .ok ⌊Binary64.dyadic m e + 1 / 2⌋ := by
  rw [← Binary64.roundHalfUp_eq_floor]
  simp only [minorUnits]
  norm_cast

/-- **A payable amount is rounded to the nearest whole number, a half upwards**, and that
fits. -/
theorem minorUnits_payable (hd : amount.IsDouble) {x : ℚ} (h : Payable amount x) :
    minorUnits amount = .ok ⌊x + 1 / 2⌋ ∧ 1 ≤ ⌊x + 1 / 2⌋ ∧ ⌊x + 1 / 2⌋ < 2 ^ 63 := by
  obtain ⟨hx, hge, hlt⟩ := h
  obtain ⟨m, e, rfl, rfl⟩ := eq_finite_of_pos hx (by linarith)
  have hone : 1 ≤ ⌊Binary64.dyadic m e + 1 / 2⌋ := by
    rw [Int.le_floor]
    push_cast
    linarith
  have hfits : ⌊Binary64.dyadic m e + 1 / 2⌋ < 2 ^ 63 := by
    rw [Binary64.floor_lt_iff hd.1 e (by norm_num)]
    exact_mod_cast hlt
  refine ⟨?_, hone, hfits⟩
  rw [minorUnits_finite, if_neg (not_lt.mpr hone), if_neg (not_le.mpr hfits)]

theorem minorUnits_excessive (hd : amount.IsDouble) (h : Excessive amount) :
    minorUnits amount = .error (.invalid tooLargeMessage) := by
  obtain rfl | ⟨x, hx, hge⟩ := h
  · rfl
  obtain ⟨m, e, rfl, rfl⟩ := eq_finite_of_pos hx (by linarith)
  have hlarge : 2 ^ 63 ≤ ⌊Binary64.dyadic m e + 1 / 2⌋ := by
    rw [← not_lt, Binary64.floor_lt_iff hd.1 e (by norm_num)]
    exact not_lt.mpr (by exact_mod_cast hge)
  rw [minorUnits_finite, if_neg (by omega), if_pos hlarge]

theorem minorUnits_neither (hp : ∀ x, ¬ Payable amount x) (he : ¬ Excessive amount) :
    minorUnits amount = .error (.invalid positiveMessage) := by
  cases amount with
  | nan => rfl
  | infinite negative =>
    cases negative with
    | true => rfl
    | false => exact absurd (.inl rfl) he
  | finite negative m e =>
    cases negative with
    | true => rfl
    | false =>
      have hlt : Binary64.dyadic m e < 2 ^ 63 := not_le.mp fun h => he (.inr ⟨_, rfl, h⟩)
      have hsmall : Binary64.dyadic m e < 1 / 2 := not_le.mp fun h => hp _ ⟨rfl, h, hlt⟩
      rw [minorUnits_finite, if_pos]
      rw [Int.floor_lt]
      push_cast
      linarith

/-! ### Accepting a request -/

variable {req : CreateRequest}

theorem accept_wanting (h : Wanting req.amount (Text.trim req.currency)) :
    accept req = .error (.invalid requiredMessage) := by
  simp only [accept]
  refine if_pos ?_
  rw [Bool.or_eq_true, Binary64.isZero_iff, decide_eq_true_eq]
  exact h

theorem accept_eq (h : ¬ Wanting req.amount (Text.trim req.currency)) :
    accept req =
      if req.amount.isPositive then
        (minorUnits req.amount).map fun n =>
          ⟨n, Text.trim req.currency, Text.trim req.paymentMethod⟩
      else .error (.invalid positiveMessage) := by
  simp only [accept]
  refine if_neg ?_
  rw [Bool.or_eq_true, Binary64.isZero_iff, decide_eq_true_eq]
  exact h

theorem isPositive_of_pos {x : ℚ} (hx : amount.value? = some x) (hpos : 0 < x) :
    amount.isPositive = true := by
  obtain ⟨m, e, rfl, rfl⟩ := eq_finite_of_pos hx hpos
  have hm : m ≠ 0 := fun h => hpos.ne' (Binary64.dyadic_eq_zero_iff.mpr h)
  simp [Binary64.isPositive, hm]

/-- **A payable amount in a currency is accepted.** -/
theorem accept_payable (hd : req.amount.IsDouble) (hc : Text.trim req.currency ≠ "") {x : ℚ}
    (h : Payable req.amount x) :
    accept req = .ok ⟨⌊x + 1 / 2⌋, Text.trim req.currency, Text.trim req.paymentMethod⟩ := by
  have hunits := (minorUnits_payable hd h).1
  obtain ⟨hx, hge, -⟩ := h
  have hwanting : ¬ Wanting req.amount (Text.trim req.currency) := by
    rintro (hzero | hblank)
    · obtain rfl := Option.some.inj (hx.symm.trans hzero)
      norm_num at hge
    · exact hc hblank
  rw [accept_eq hwanting, if_pos (isPositive_of_pos hx (by linarith)), hunits]
  rfl

theorem accept_excessive (hd : req.amount.IsDouble)
    (hw : ¬ Wanting req.amount (Text.trim req.currency)) (h : Excessive req.amount) :
    accept req = .error (.invalid tooLargeMessage) := by
  have hpos : req.amount.isPositive = true := by
    obtain hinf | ⟨x, hx, hge⟩ := h
    · rw [hinf]
      rfl
    · exact isPositive_of_pos hx (by linarith)
  rw [accept_eq hw, if_pos hpos, minorUnits_excessive hd h]
  rfl

theorem accept_neither (hw : ¬ Wanting req.amount (Text.trim req.currency))
    (hp : ∀ x, ¬ Payable req.amount x) (he : ¬ Excessive req.amount) :
    accept req = .error (.invalid positiveMessage) := by
  rw [accept_eq hw, minorUnits_neither hp he]
  split <;> rfl

/-- Why a request is refused, in the words that the caller gets. -/
structure Refusal (amount : Binary64) (currency message : String) : Prop where
  required : message = "amount and currency are required" ↔ Wanting amount currency
  tooLarge : message = "amount is too large" ↔ currency ≠ "" ∧ Excessive amount
  positive : message = "amount must be greater than zero" ↔
    ¬ Wanting amount currency ∧ ¬ Excessive amount

theorem Wanting.not_excessive {currency : String} (h : Wanting amount currency)
    (hc : currency ≠ "") : ¬ Excessive amount := by
  have hzero := h.resolve_right hc
  rintro (rfl | ⟨x, hx, hge⟩)
  · cases hzero
  · obtain rfl := Option.some.inj (hx.symm.trans hzero)
    norm_num at hge

/-- **What is not payable is refused**, with the message of its reason. -/
theorem accept_refusal (hd : req.amount.IsDouble)
    (h : ¬ (Text.trim req.currency ≠ "" ∧ ∃ x, Payable req.amount x)) :
    ∃ message, accept req = .error (.invalid message) ∧
      Refusal req.amount (Text.trim req.currency) message := by
  by_cases hw : Wanting req.amount (Text.trim req.currency)
  · refine ⟨_, accept_wanting hw, ⟨iff_of_true rfl hw, ?_, ?_⟩⟩
    · exact iff_of_false (by decide) fun ⟨hc, he⟩ => hw.not_excessive hc he
    · exact iff_of_false (by decide) fun hn => hn.1 hw
  have hc : Text.trim req.currency ≠ "" := fun hc => hw (.inr hc)
  by_cases he : Excessive req.amount
  · refine ⟨_, accept_excessive hd hw he, ⟨?_, iff_of_true rfl ⟨hc, he⟩, ?_⟩⟩
    · exact iff_of_false (by decide) hw
    · exact iff_of_false (by decide) fun hn => hn.2 he
  · have hp : ∀ x, ¬ Payable req.amount x := fun x hx => h ⟨hc, x, hx⟩
    refine ⟨_, accept_neither hw hp he, ⟨?_, ?_, iff_of_true rfl ⟨hw, he⟩⟩⟩
    · exact iff_of_false (by decide) hw
    · exact iff_of_false (by decide) fun hn => he hn.2

/-! ### Creations -/

variable {σ : Type}

theorem create_refused (p : Provider σ) (publish : Publish) (r : Registry) (s : σ) {f : Fault}
    (h : accept req = .error f) : create p publish r s req = ⟨.error f, r, s, .empty⟩ := by
  simp [create, h]

/-- A request that is accepted reaches the provider, once. -/
theorem create_accepted (p : Provider σ) (publish : Publish) (r : Registry) (s : σ)
    {params : CreateParams} (h : accept req = .ok params) :
    (create p publish r s req).trace.calls = [.create params] := by
  rcases hc : p.create params s with ⟨f | i, s'⟩
  · simp [create, h, hc, failure]
  · simp [create, h, hc, created, announce_calls]

theorem create_result_accepted (p : Provider σ) (publish : Publish) (r : Registry) (s : σ)
    {params : CreateParams} {f : Fault} (h : accept req = .ok params)
    (hf : (create p publish r s req).result = .error f) :
    ∃ g, (p.create params s).1 = .error g ∧ f = .call createOp (some g) := by
  rcases hc : p.create params s with ⟨g | i, s'⟩
  · simp only [create, h, hc] at hf
    exact ⟨g, rfl, (Except.error.inj hf).symm⟩
  · simp [create, h, hc] at hf

/-- The sandbox refuses an amount of at least one for its currency only. -/
theorem sandbox_create_error {ids : Nat → String} {params : CreateParams} {b : Sandbox} {f : Fault}
    (hamount : 1 ≤ params.amount) (h : (Sandbox.create ids params b).1 = .error f) :
    ∃ message, f = .remote Sandbox.createOp "parameter_invalid_string" message 400 none := by
  simp only [Sandbox.create, Sandbox.refuse?, if_neg (not_lt.mpr hamount)] at h
  split at h
  · rename_i g hg
    split at hg
    · cases hg
      cases h
      exact ⟨_, rfl⟩
    · cases hg
  · cases h

/-- The sandbox is never asked for an amount that it refuses. -/
theorem create_sandbox_amount (ids : Nat → String) (publish : Publish) (r : Registry)
    (b : Sandbox) (hd : req.amount.IsDouble) (op message : String) (status : Int)
    (cause : Option Fault) :
    (create (Sandbox.provider ids) publish r b req).result ≠ .error
      (.call createOp (some (.remote op "parameter_invalid_integer" message status cause))) := by
  intro hresult
  by_cases hpay : Text.trim req.currency ≠ "" ∧ ∃ x, Payable req.amount x
  · obtain ⟨hc, x, hx⟩ := hpay
    obtain ⟨g, hg, hcall⟩ :=
      create_result_accepted _ publish r b (accept_payable hd hc hx) hresult
    obtain ⟨-, hone, -⟩ := minorUnits_payable hd hx
    obtain ⟨said, rfl⟩ := sandbox_create_error hone hg
    simp at hcall
  · obtain ⟨said, haccept, -⟩ := accept_refusal hd hpay
    rw [create_refused _ publish r b haccept] at hresult
    cases hresult

/-- **The amounts that reach the provider**, for every provider and every request. A request
reaches it if there is a currency and the amount is at least one half and below `2 ^ 63`; it
asks for the nearest whole number, a half upwards, which is positive and fits 63 bits.
Otherwise nothing is asked, nothing changes, and the message has the reason. So the sandbox
never has to refuse an amount. -/
theorem create_amount_exact (p : Provider σ) (publish : Publish) (r : Registry) (s : σ)
    (req : CreateRequest) (hd : req.amount.IsDouble) :
    let o := create p publish r s req
    let currency := Text.trim req.currency
    (o.trace.calls ≠ [] ↔ currency ≠ "" ∧ ∃ x, Payable req.amount x) ∧
    (∀ x, currency ≠ "" → Payable req.amount x →
      o.trace.calls = [.create ⟨⌊x + 1 / 2⌋, currency, Text.trim req.paymentMethod⟩] ∧
        1 ≤ ⌊x + 1 / 2⌋ ∧ ⌊x + 1 / 2⌋ ≤ 2 ^ 63 - 1) ∧
    (o.trace.calls = [] → ∃ message, o = ⟨.error (.invalid message), r, s, .empty⟩ ∧
      Refusal req.amount currency message) ∧
    ∀ (ids : Nat → String) (b : Sandbox) (op message : String) (status : Int)
      (cause : Option Fault),
      (create (Sandbox.provider ids) publish r b req).result ≠ .error
        (.call createOp (some (.remote op "parameter_invalid_integer" message status cause))) := by
  intro o currency
  have hpays : ∀ x, currency ≠ "" → Payable req.amount x →
      o.trace.calls = [.create ⟨⌊x + 1 / 2⌋, currency, Text.trim req.paymentMethod⟩] :=
    fun x hc hx => create_accepted p publish r s (accept_payable hd hc hx)
  have hrefuses : ¬ (currency ≠ "" ∧ ∃ x, Payable req.amount x) →
      ∃ message, o = ⟨.error (.invalid message), r, s, .empty⟩ ∧
        Refusal req.amount currency message := by
    intro hpay
    obtain ⟨message, haccept, hrefusal⟩ := accept_refusal hd hpay
    exact ⟨message, create_refused p publish r s haccept, hrefusal⟩
  refine ⟨⟨fun hcalls => ?_, ?_⟩, fun x hc hx => ⟨hpays x hc hx, ?_⟩, fun hcalls => ?_,
    fun ids b => create_sandbox_amount ids publish r b hd⟩
  · by_contra hpay
    obtain ⟨message, ho, -⟩ := hrefuses hpay
    exact hcalls (by rw [ho]; rfl)
  · rintro ⟨hc, x, hx⟩
    rw [hpays x hc hx]
    exact List.cons_ne_nil _ _
  · obtain ⟨-, hone, hfits⟩ := minorUnits_payable hd hx
    exact ⟨hone, by omega⟩
  · refine hrefuses fun ⟨hc, x, hx⟩ => ?_
    rw [hpays x hc hx] at hcalls
    exact List.cons_ne_nil _ _ hcalls

/-- The largest double below `2 ^ 63` is asked for as it is; the largest one below one half is
refused, though one half added to it makes one in double precision. -/
theorem create_amount_exact_edges :
    let script : Script := ⟨.error .canceled, .error .canceled, none⟩
    let top : CreateRequest := ⟨.finite false 9007199254740991 10, " usd", ""⟩
    let low : CreateRequest := ⟨.finite false 9007199254740991 (-54), "usd", ""⟩
    let r := Registry.new 0 0
    top.amount.IsDouble ∧ low.amount.IsDouble ∧
      (create Script.provider (fun _ => none) r script top).trace.calls =
        [.create ⟨9223372036854774784, "usd", ""⟩] ∧
      (create Script.provider (fun _ => none) r script low).result =
        .error (.invalid "amount must be greater than zero") := by
  intro script top low r
  have htop : top.amount.IsDouble := by decide
  have hlow : low.amount.IsDouble := by decide
  have hpositive : 0 < Binary64.dyadic 9007199254740991 (-54) := by norm_num [Binary64.dyadic]
  have hsmall : Binary64.dyadic 9007199254740991 (-54) < 1 / 2 := by norm_num [Binary64.dyadic]
  refine ⟨htop, hlow, ?_, ?_⟩
  · have hvalue : top.amount.value? = some 9223372036854774784 :=
      congrArg some (by norm_num [Binary64.dyadic])
    have hcurrency : Text.trim top.currency = "usd" := by decide +kernel
    have hmethod : Text.trim top.paymentMethod = "" := by decide +kernel
    obtain ⟨-, hpays, -, -⟩ := create_amount_exact Script.provider (fun _ => none) r
      script top htop
    obtain ⟨hcalls, -, -⟩ := hpays _ (by rw [hcurrency]; decide)
      ⟨hvalue, by norm_num, by norm_num⟩
    have hfloor : ⌊(9223372036854774784 : ℚ) + 1 / 2⌋ = 9223372036854774784 := by norm_num
    rw [hcurrency, hmethod, hfloor] at hcalls
    exact hcalls
  · obtain ⟨hreaches, -, hrefuses, -⟩ := create_amount_exact Script.provider (fun _ => none) r
      script low hlow
    have hcalls : (create Script.provider (fun _ => none) r script low).trace.calls = [] := by
      by_contra hcalls
      obtain ⟨-, x, hx, hge, -⟩ := hreaches.mp hcalls
      obtain rfl := Option.some.inj hx
      exact absurd hge (not_le.mpr hsmall)
    obtain ⟨message, ho, hrefusal⟩ := hrefuses hcalls
    have hmessage : message = "amount must be greater than zero" := by
      refine hrefusal.positive.mpr ⟨?_, ?_⟩
      · rintro (hzero | hblank)
        · exact hpositive.ne' (Option.some.inj hzero)
        · exact absurd hblank (by decide +kernel)
      · rintro (hinf | ⟨x, hx, hge⟩)
        · cases hinf
        · obtain rfl := Option.some.inj hx
          exact absurd (hge.trans_lt hsmall) (by norm_num)
    rw [ho, hmessage]

end Handshake
end PaymentGateway
