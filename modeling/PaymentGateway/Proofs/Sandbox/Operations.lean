/-
# What becomes of an intent, whatever the sandbox is asked

The sandbox can be asked to create, to confirm and to attach, in any order and with any
arguments. An operation is about one id and leaves the holdings of the others alone
(`perform_other`). What it makes of the holding of its own id is said once (`Becomes`):
nothing, another payment method, or one of the three ends of a confirmation that was not
refused. All that holds of an intent forever follows from these five cases. Its id, secret,
amount and currency stay, it asks for an action exactly while its status says so, and once
it has gone through only an attach changes anything of it (`intent_lifecycle`).

A confirmation that fails has changed nothing, unless the card was declined: the checks
come before the method is written (`confirm_error`).

Key definitions: `Sandbox.Operation`, `Sandbox.performAll`, `Sandbox.Holding.Sound`,
`Sandbox.Holding.Kept`, `Sandbox.Holding.Becomes`.
Key theorems: `Sandbox.perform_other`, `Sandbox.perform_becomes`, `Sandbox.confirm_error`,
`Sandbox.intent_lifecycle`.
-/
import PaymentGateway.Proofs.Sandbox.Lifecycle

namespace PaymentGateway
namespace Sandbox

/-! ### Operations -/

/-- What the sandbox can be asked. -/
inductive Operation where
  | create (params : CreateParams)
  | confirm (id method : String)
  | attach (method id : String)
  deriving Repr, DecidableEq

/-- The id that an operation is about. A creation is about the id that is taken next. -/
def Operation.target (ids : Nat → String) (s : Sandbox) : Operation → String
  | .create _ => "pi_" ++ ids (s.taken + 1)
  | .confirm id _ => id
  | .attach _ id => id

/-- The sandbox after an operation. -/
def perform (ids : Nat → String) (s : Sandbox) : Operation → Sandbox
  | .create params => (create ids params s).2
  | .confirm id method => (confirm id method s).2
  | .attach method id => (attach method id s).2

/-- The sandbox after a list of operations. -/
def performAll (ids : Nat → String) (s : Sandbox) (ops : List Operation) : Sandbox :=
  ops.foldl (perform ids) s

variable {ids : Nat → String} {s : Sandbox} {h h' : Holding} {id : String}

/-- A creation is refused and changes nothing, or takes two ids and keeps a new holding. -/
theorem create_cases (ids : Nat → String) (params : CreateParams) (s : Sandbox) :
    (create ids params s).2 = s ∨ refuse? params = none ∧
      (create ids params s).2 = { s with taken := s.taken + 2 }.store
        (newHolding (ids (s.taken + 1)) (ids (s.taken + 2)) params) := by
  unfold create
  cases refuse? params with
  | some f => exact .inl rfl
  | none => exact .inr ⟨rfl, rfl⟩

/-- **An operation on one id leaves all others alone.** -/
theorem perform_other (op : Operation) {other : String} (hne : op.target ids s ≠ other) :
    (s.perform ids op).find? other = s.find? other := by
  cases op with
  | create params =>
    show (create ids params s).2.find? other = s.find? other
    rcases create_cases ids params s with hsame | ⟨-, hnew⟩
    · rw [hsame]
    · rw [hnew, find?_store]
      exact if_neg (Ne.symm hne)
  | confirm target method => exact confirm_other target method s (Ne.symm hne)
  | attach method target =>
    show (attach method target s).2.find? other = s.find? other
    unfold attach
    split
    · rfl
    · rename_i k hk
      split
      · rfl
      · have hid : k.intent.id = target := id_of_find? hk
        rw [find?_update]
        refine if_neg fun he => hne ?_
        exact hid.symm.trans he.symm

theorem perform_taken_le (op : Operation) : s.taken ≤ (s.perform ids op).taken := by
  cases op with
  | create params =>
    show s.taken ≤ (create ids params s).2.taken
    rcases create_cases ids params s with hsame | ⟨-, hnew⟩
    · exact Nat.le_of_eq (congrArg taken hsame.symm)
    · rw [hnew, store_taken]
      exact Nat.le_add_right _ _
  | confirm target method => exact Nat.le_of_eq (confirm_taken target method s).symm
  | attach method target => exact Nat.le_of_eq (attach_taken method target s).symm

theorem performAll_taken_le (ids : Nat → String) : ∀ (ops : List Operation) (s : Sandbox),
    s.taken ≤ (s.performAll ids ops).taken
  | [], _ => Nat.le_refl _
  | op :: ops, s =>
    Nat.le_trans (perform_taken_le op) (performAll_taken_le ids ops (s.perform ids op))

/-! ### What an operation makes of a holding -/

/-- The holding with another status, next action and payment method. -/
def Holding.turned (h : Holding) (status : String) (nextAction : Option String)
    (method : String) : Holding :=
  { h with intent := { h.intent with status, nextAction }, paymentMethod := method }

/-- **What an operation makes of a holding.** A confirmation makes something else of it only
in a status in which it can still be confirmed. -/
inductive Holding.Becomes (op : Operation) (h : Holding) : Holding → Prop where
  | same : Becomes op h h
  | attached {method : String} (asked : op = .attach method h.intent.id) :
    Becomes op h { h with paymentMethod := method }
  | declined (unsettled : isFinal h.intent.status = false) :
    Becomes op h (h.turned Status.requiresPaymentMethod none "")
  | challenged (unsettled : isFinal h.intent.status = false) (method : String) :
    Becomes op h (h.turned Status.requiresAction (some "use_stripe_sdk") method)
  | through (unsettled : isFinal h.intent.status = false) (method : String) :
    Becomes op h (h.turned Status.succeeded none method)

theorem confirmed_becomes (op : Operation) (hopen : isFinal h.intent.status = false)
    (method : String) : h.Becomes op (confirmed h method).2 := by
  unfold confirmed
  split
  · exact .declined hopen
  · simp only
    split
    · exact .challenged hopen method
    · exact .through hopen method

/-- The holding of the id that a confirmation or an attach is about. -/
theorem find?_update_self (hf : s.find? id = some h) (hid : h'.intent.id = id) :
    (s.update h').find? id = some h' := by
  rw [find?_update, if_pos hid.symm, hf]
  rfl

theorem confirm_becomes (hf : s.find? id = some h) (method : String) :
    ∃ h', (confirm id method s).2.find? id = some h' ∧ h.Becomes (.confirm id method) h' := by
  have hown : h.intent.id = id := id_of_find? hf
  rcases confirm_cases hf method with ⟨-, message, hc⟩ | ⟨hopen, hc⟩
  · rw [hc]
    exact ⟨h, hf, .same⟩
  · rw [hc]
    exact ⟨_, find?_update_self hf ((confirmed_id h _).trans hown), confirmed_becomes _ hopen _⟩

theorem attach_becomes (hf : s.find? id = some h) (method : String) :
    ∃ h', (attach method id s).2.find? id = some h' ∧ h.Becomes (.attach method id) h' := by
  have hown : h.intent.id = id := id_of_find? hf
  unfold attach
  rw [hf]
  by_cases hsame : h.paymentMethod = method
  · exact ⟨h, by simpa only [hsame, ↓reduceIte] using hf, .same⟩
  · refine ⟨{ h with paymentMethod := method }, ?_, .attached (by rw [hown])⟩
    simp only [hsame, ↓reduceIte]
    exact find?_update_self hf hown

/-- **One operation**: a holding stays under its id and becomes one of five, if the id that
a creation takes is new. -/
theorem perform_becomes (op : Operation)
    (hnew : s.taken < (s.perform ids op).taken → s.find? ("pi_" ++ ids (s.taken + 1)) = none)
    (hf : s.find? id = some h) :
    ∃ h', (s.perform ids op).find? id = some h' ∧ h.Becomes op h' := by
  by_cases htarget : op.target ids s = id
  · cases op with
    | create params =>
      have hp : s.perform ids (.create params) = (create ids params s).2 := rfl
      rcases create_cases ids params s with hsame | ⟨-, hstore⟩
      · exact ⟨h, by rw [hp, hsame, hf], .same⟩
      · have htaken : s.taken < (s.perform ids (.create params)).taken := by
          rw [hp, hstore, store_taken]
          exact Nat.lt_add_of_pos_right (by decide)
        obtain rfl : "pi_" ++ ids (s.taken + 1) = id := htarget
        rw [hnew htaken] at hf
        cases hf
    | confirm target method =>
      obtain rfl : target = id := htarget
      exact confirm_becomes hf method
    | attach method target =>
      obtain rfl : target = id := htarget
      exact attach_becomes hf method
  · exact ⟨h, (perform_other op htarget).trans hf, .same⟩

/-- An operation brings in no holding but that of a new intent. -/
theorem perform_find?_new (op : Operation) (hf : s.find? id = none)
    (hf' : (s.perform ids op).find? id = some h') :
    ∃ params, refuse? params = none ∧ id = "pi_" ++ ids (s.taken + 1) ∧
      s.taken < (s.perform ids op).taken ∧
      h' = newHolding (ids (s.taken + 1)) (ids (s.taken + 2)) params := by
  by_cases htarget : op.target ids s = id
  · cases op with
    | confirm target method =>
      obtain rfl : target = id := htarget
      simp only [perform, confirm, hf] at hf'
      cases hf'
    | attach method target =>
      obtain rfl : target = id := htarget
      simp only [perform, attach, hf] at hf'
      cases hf'
    | create params =>
      have hp : s.perform ids (.create params) = (create ids params s).2 := rfl
      rcases create_cases ids params s with hsame | ⟨hr, hstore⟩
      · rw [hp, hsame, hf] at hf'
        cases hf'
      · have hown : id = (newHolding (ids (s.taken + 1)) (ids (s.taken + 2)) params).intent.id :=
          htarget.symm
        rw [hp, hstore, find?_store, if_pos hown] at hf'
        refine ⟨params, hr, htarget.symm, ?_, (Option.some.inj hf').symm⟩
        rw [hp, hstore, store_taken]
        exact Nat.lt_add_of_pos_right (by decide)
  · rw [perform_other op htarget, hf] at hf'
    cases hf'

/-! ### What holds of every intent -/

/-- A holding as it should be: its status is one of the lifecycle, it asks for an action
exactly if the status says so, and its amount is at least one. -/
structure Holding.Sound (h : Holding) : Prop where
  status : h.intent.status ∈ lifecycle
  action : h.intent.nextAction.isSome ↔ h.intent.status = Status.requiresAction
  amount : 1 ≤ h.amount

theorem Holding.Sound.turned (hs : h.Sound) {status : String} {nextAction : Option String}
    (hst : status ∈ lifecycle) (ha : nextAction.isSome ↔ status = Status.requiresAction)
    (method : String) : (h.turned status nextAction method).Sound :=
  ⟨hst, ha, hs.amount⟩

/-- What an intent keeps forever. -/
structure Holding.Kept (h h' : Holding) : Prop where
  id : h'.intent.id = h.intent.id
  clientSecret : h'.intent.clientSecret = h.intent.clientSecret
  amount : h'.amount = h.amount
  currency : h'.currency = h.currency

theorem Holding.Kept.refl (h : Holding) : h.Kept h := ⟨rfl, rfl, rfl, rfl⟩

theorem Holding.Kept.trans {h'' : Holding} (first : h.Kept h') (second : h'.Kept h'') :
    h.Kept h'' where
  id := second.id.trans first.id
  clientSecret := second.clientSecret.trans first.clientSecret
  amount := second.amount.trans first.amount
  currency := second.currency.trans first.currency

namespace Holding.Becomes

variable {op : Operation}

theorem sound (hb : h.Becomes op h') (hs : h.Sound) : h'.Sound := by
  cases hb with
  | same => exact hs
  | attached _ => exact ⟨hs.status, hs.action, hs.amount⟩
  | declined _ => exact hs.turned (by decide) (by decide) ""
  | challenged _ method => exact hs.turned (by decide) (by decide) method
  | through _ method => exact hs.turned (by decide) (by decide) method

theorem kept (hb : h.Becomes op h') : h.Kept h' := by
  cases hb <;> exact ⟨rfl, rfl, rfl, rfl⟩

/-- An intent that has gone through stays as it is, and keeps its payment method unless
another one is attached. -/
theorem succeeded (hb : h.Becomes op h') (hst : h.intent.status = Status.succeeded) :
    h'.intent = h.intent ∧
      ((∀ method, op ≠ .attach method h.intent.id) → h'.paymentMethod = h.paymentMethod) := by
  have hfinal : isFinal h.intent.status = true := by rw [hst]; rfl
  cases hb with
  | same => exact ⟨rfl, fun _ => rfl⟩
  | attached asked => exact ⟨rfl, fun hno => absurd asked (hno _)⟩
  | declined unsettled => simp [unsettled] at hfinal
  | challenged unsettled _ => simp [unsettled] at hfinal
  | through unsettled _ => simp [unsettled] at hfinal

end Holding.Becomes

theorem newHolding_sound {params : CreateParams} (hr : refuse? params = none)
    (idPart secretPart : String) : (newHolding idPart secretPart params).Sound where
  status := newHolding_status idPart secretPart params
  action := by
    by_cases hm : params.paymentMethod = "" <;>
      simp [newHolding, hm, Status.requiresPaymentMethod, Status.requiresConfirmation,
        Status.requiresAction]
  amount := by
    unfold refuse? at hr
    split at hr
    · cases hr
    · rename_i hpos
      exact Int.not_lt.mp hpos

/-! ### Runs -/

/-- Every intent held is under one of the ids taken, and as it should be. -/
structure Settled (ids : Nat → String) (s : Sandbox) : Prop where
  numbered : Numbered ids s
  sound : ∀ id h, s.find? id = some h → h.Sound

theorem settled_empty (ids : Nat → String) : Settled ids empty where
  numbered id hid := by simp [find?, empty] at hid
  sound id h hf := by simp [find?, empty] at hf

/-- One operation keeps all intents as they should be. -/
theorem Settled.perform (hs : Settled ids s) (op : Operation)
    (hd : DistinctIds ids (s.perform ids op).taken) : Settled ids (s.perform ids op) := by
  have hle : s.taken ≤ (s.perform ids op).taken := perform_taken_le op
  constructor
  · intro id hid
    obtain ⟨h', hf'⟩ := Option.isSome_iff_exists.mp hid
    cases hf : s.find? id with
    | some h =>
      obtain ⟨k, hk0, hk, he⟩ := hs.numbered id (by rw [hf]; rfl)
      exact ⟨k, hk0, Nat.le_trans hk hle, he⟩
    | none =>
      obtain ⟨params, -, he, hlt, -⟩ := perform_find?_new op hf hf'
      exact ⟨s.taken + 1, Nat.succ_pos _, hlt, he⟩
  · intro id h' hf'
    cases hf : s.find? id with
    | some h =>
      obtain ⟨x, hx, hb⟩ := perform_becomes op (hs.numbered.find?_new hd) hf
      obtain rfl : h' = x := Option.some.inj (hf'.symm.trans hx)
      exact hb.sound (hs.sound id h hf)
    | none =>
      obtain ⟨params, hr, -, -, rfl⟩ := perform_find?_new op hf hf'
      exact newHolding_sound hr _ _

theorem Settled.performAll : ∀ (ops : List Operation) {s : Sandbox}, Settled ids s →
    DistinctIds ids (s.performAll ids ops).taken → Settled ids (s.performAll ids ops)
  | [], _, hs, _ => hs
  | op :: ops, _, hs, hd =>
    Settled.performAll ops (hs.perform op (hd.mono (performAll_taken_le ids ops _))) hd

/-- **What an intent keeps through a run**, and what more it keeps once it has gone through. -/
theorem performAll_keeps : ∀ (ops : List Operation) {s : Sandbox} {h : Holding}, Settled ids s →
    DistinctIds ids (s.performAll ids ops).taken → s.find? id = some h →
    ∃ h', (s.performAll ids ops).find? id = some h' ∧ h.Kept h' ∧
      (h.intent.status = Status.succeeded → h'.intent = h.intent ∧
        ((∀ method, .attach method id ∉ ops) → h'.paymentMethod = h.paymentMethod))
  | [], _, h, _, _, hf => ⟨h, hf, .refl h, fun _ => ⟨rfl, fun _ => rfl⟩⟩
  | op :: ops, s, h, hs, hd, hf => by
    have hd' : DistinctIds ids (s.perform ids op).taken :=
      hd.mono (performAll_taken_le ids ops _)
    obtain ⟨x, hx, hb⟩ := perform_becomes op (hs.numbered.find?_new hd') hf
    obtain ⟨h', hf', hkept, hlast⟩ := performAll_keeps ops (hs.perform op hd') hd hx
    refine ⟨h', hf', hb.kept.trans hkept, fun hst => ?_⟩
    obtain ⟨hintent, hmethod⟩ := hb.succeeded hst
    obtain ⟨hintent', hmethod'⟩ := hlast (by rw [hintent, hst])
    refine ⟨hintent'.trans hintent, fun hno => ?_⟩
    have hfirst : ∀ method, op ≠ .attach method h.intent.id := by
      intro method hop
      rw [id_of_find? hf] at hop
      exact hno method (hop ▸ List.mem_cons_self)
    have hrest : ∀ method, .attach method id ∉ ops := fun method hmem =>
      hno method (List.mem_cons_of_mem _ hmem)
    exact (hmethod' hrest).trans (hmethod hfirst)

/-! ### A confirmation that fails -/

/-- **A confirmation that fails** has changed nothing, or its card was declined. -/
theorem confirm_error {method : String} {f : Fault} (hf : (confirm id method s).1 = .error f) :
    ∃ report, f.remote? = some report ∧
      (report.code ≠ "card_declined" → (confirm id method s).2 = s) ∧
      (report.code = "card_declined" → ∃ h, s.find? id = some h ∧
        (confirm id method s).2 = s.update (h.turned Status.requiresPaymentMethod none "")) := by
  cases hheld : s.find? id with
  | none =>
    simp only [confirm, hheld] at hf ⊢
    cases hf
    exact ⟨_, rfl, fun _ => trivial, fun hcode => absurd hcode (by decide : "resource_missing" ≠ _)⟩
  | some h =>
    rcases confirm_cases hheld method with ⟨-, message, hc⟩ | ⟨-, hc⟩
    · rw [hc] at hf ⊢
      cases hf
      exact ⟨_, rfl, fun _ => rfl, fun hcode =>
        absurd hcode (by decide : "payment_intent_unexpected_state" ≠ _)⟩
    · rw [hc] at hf ⊢
      unfold confirmed at hf ⊢
      split
      · rename_i hm
        rw [if_pos hm] at hf
        cases hf
        exact ⟨_, rfl, fun hcode => absurd rfl hcode, fun _ => ⟨h, rfl, rfl⟩⟩
      · rename_i hm
        rw [if_neg hm] at hf
        cases hf

/-! ### The lifecycle -/

/-- **The lifecycle of an intent**, after every run of operations with any arguments and
through every further run, if the ids taken are distinct. Every intent has one of four
statuses, asks for an action exactly if its status says so, and has an amount of at least
one. It is there forever, with its id, secret, amount and currency; once it has gone
through, its status and next action are as they are and only an attach can change its
payment method. An operation on one id leaves all others alone. A confirmation that fails
changes nothing at all, unless the card was declined: then it changes status, next action
and payment method of that intent. -/
theorem intent_lifecycle (ids : Nat → String) (ops more : List Operation)
    (hd : DistinctIds ids ((empty.performAll ids ops).performAll ids more).taken) :
    let s := empty.performAll ids ops
    (∀ id h, s.find? id = some h →
      h.intent.status ∈ [Status.requiresPaymentMethod, Status.requiresConfirmation,
        Status.requiresAction, Status.succeeded] ∧
      (h.intent.nextAction.isSome ↔ h.intent.status = Status.requiresAction) ∧ 1 ≤ h.amount) ∧
    (∀ id h, s.find? id = some h → ∃ h', (s.performAll ids more).find? id = some h' ∧
      h.Kept h' ∧
      (h.intent.status = Status.succeeded → h'.intent = h.intent ∧
        ((∀ method, .attach method id ∉ more) → h'.paymentMethod = h.paymentMethod))) ∧
    (∀ op other, op.target ids s ≠ other → (s.perform ids op).find? other = s.find? other) ∧
    ∀ id method f, (confirm id method s).1 = .error f → ∃ report, f.remote? = some report ∧
      (report.code ≠ "card_declined" → (confirm id method s).2 = s) ∧
      (report.code = "card_declined" → ∃ h, s.find? id = some h ∧
        (confirm id method s).2 = s.update
          { h with
            intent := { h.intent with status := Status.requiresPaymentMethod, nextAction := none }
            paymentMethod := "" }) := by
  intro s
  have hs : Settled ids s :=
    (settled_empty ids).performAll ops (hd.mono (performAll_taken_le ids more s))
  refine ⟨fun id h hf => ?_, fun id h hf => performAll_keeps more hs hd hf,
    fun op other hne => perform_other op hne, fun id method f hf => confirm_error hf⟩
  obtain ⟨hstatus, haction, hamount⟩ := hs.sound id h hf
  exact ⟨hstatus, haction, hamount⟩

/-- Three intents. The first is challenged and goes through, and another method is attached
to it; the second is declined with the method it was given before; the third has no method.
Every id taken is another. -/
theorem intent_lifecycle_declined :
    let ids := fun n => String.ofList (Nat.toDigits 10 n)
    let ops : List Operation := [.create ⟨500, "USD", ""⟩, .create ⟨7, "eur", declinedMethod⟩,
      .create ⟨0, "eur", ""⟩, .create ⟨1, "gbp", ""⟩, .confirm "pi_1" challengedMethod,
      .confirm "pi_1" "", .confirm "pi_3" ""]
    let more : List Operation := [.confirm "pi_1" "pm_card_visa", .attach "pm_1" "pi_1",
      .confirm "pi_5" ""]
    let s := empty.performAll ids ops
    DistinctIds ids (s.performAll ids more).taken ∧
      s.find? "pi_1" = some ⟨⟨"pi_1", "pi_1_secret_2", Status.succeeded, none⟩,
        challengedMethod, 500, "usd"⟩ ∧
      s.find? "pi_3" = some ⟨⟨"pi_3", "pi_3_secret_4", Status.requiresPaymentMethod, none⟩,
        "", 7, "eur"⟩ ∧
      ∃ h', (s.performAll ids more).find? "pi_1" = some h' ∧ h'.intent.status = Status.succeeded ∧
        h'.amount = 500 := by
  intro ids ops more s
  have hd : DistinctIds ids (s.performAll ids more).taken := by decide +kernel
  have hf : s.find? "pi_1" = some ⟨⟨"pi_1", "pi_1_secret_2", Status.succeeded, none⟩,
      challengedMethod, 500, "usd"⟩ := by decide +kernel
  obtain ⟨-, hkeeps, -, -⟩ := intent_lifecycle ids ops more hd
  obtain ⟨h', hf', hkept, hlast⟩ := hkeeps _ _ hf
  exact ⟨hd, hf, by decide +kernel, h', hf', by rw [(hlast rfl).1], hkept.amount⟩

end Sandbox
end PaymentGateway
