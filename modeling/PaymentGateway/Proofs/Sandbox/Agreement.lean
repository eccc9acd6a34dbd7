/-
# The registry and the sandbox agree

Two stores know of an intent: the sandbox, which runs its lifecycle, and the
registry, which keeps what the handshake was told last. Over a session of
requests on a registry without bounds they hold the same ids with the same
secrets, one for each creation that succeeded. Their statuses may differ in one
way only. A declined confirmation sends the intent back to waiting for a
payment method and fails, so the registry keeps what it had; it catches up at
the next confirmation that returns a status. In between the sandbox says
`requires_payment_method` and the registry `requires_confirmation` or
`requires_action` (`Trails`), so both always agree on what has succeeded.

The relation is `InStep`; a step that opens an intent, one that resolves to an
intent and one that does neither keep it each for its own reason.

Key definitions: `Sandbox.DeclinedSince`, `Sandbox.Trails`, `Sandbox.InStep`.
Key theorems: `Sandbox.step_inStep`, `Sandbox.run_inStep`,
`Sandbox.registry_tracks_sandbox`.
-/
import PaymentGateway.Proofs.Sandbox.Session

namespace PaymentGateway
namespace Sandbox

open Handshake (Op Session Step)
open Registry (Coherent)

/-! ### Where the two may differ -/

/-- A confirmation of an id that was declined. -/
def Declined (st : Step Sandbox) (id : String) : Prop :=
  st.target? = some id ∧ st.fault? = some (.call Handshake.confirmOp (some declined))

/-- A confirmation of the id was declined, and since then none has returned a
status. -/
def DeclinedSince (log : List (Step Sandbox)) (id : String) : Prop :=
  ∃ earlier st later, log = earlier ++ st :: later ∧ Declined st id ∧
    ∀ x ∈ later, x.target? = some id → x.returned? = none

/-- The status on record and the status held are the same, or the intent was
sent back by a declined confirmation and the record is from before it. -/
def Trails (log : List (Step Sandbox)) (id : String) (recorded held : Option String) : Prop :=
  recorded = held ∨
    held = some Status.requiresPaymentMethod ∧
      (recorded = some Status.requiresConfirmation ∨ recorded = some Status.requiresAction) ∧
      DeclinedSince log id

variable {log : List (Step Sandbox)} {id : String} {recorded held : Option String}

theorem DeclinedSince.snoc {st : Step Sandbox} (h : DeclinedSince log id)
    (hst : st.target? = some id → st.returned? = none) : DeclinedSince (log ++ [st]) id := by
  obtain ⟨earlier, c, later, rfl, hc, hlater⟩ := h
  refine ⟨earlier, c, later ++ [st], by simp, hc, fun x hx => ?_⟩
  rcases List.mem_append.mp hx with hx | hx
  · exact hlater x hx
  · rw [List.mem_singleton.mp hx]
    exact hst

theorem Trails.snoc {st : Step Sandbox} (h : Trails log id recorded held)
    (hst : st.target? = some id → st.returned? = none) :
    Trails (log ++ [st]) id recorded held := by
  rcases h with h | ⟨hheld, hrec, hdeclined⟩
  · exact .inl h
  · exact .inr ⟨hheld, hrec, hdeclined.snoc hst⟩

/-- What an open intent has on record is open too, and a declined confirmation
brings the two apart at most by that. -/
theorem Trails.decline {st : Step Sandbox} {status : String}
    (h : Trails log id recorded (some status)) (hmem : status ∈ lifecycle)
    (hopen : isFinal status = false) (hst : Declined st id) :
    Trails (log ++ [st]) id recorded (some Status.requiresPaymentMethod) := by
  have hsince : DeclinedSince (log ++ [st]) id := ⟨log, st, [], rfl, hst, by simp⟩
  rcases h with rfl | ⟨-, hrec, -⟩
  · rcases open_of_lifecycle hmem hopen with rfl | rfl | rfl
    · exact .inl rfl
    · exact .inr ⟨rfl, .inl rfl, hsince⟩
    · exact .inr ⟨rfl, .inr rfl, hsince⟩
  · exact .inr ⟨rfl, hrec, hsince⟩

/-- The two agree on what has succeeded. -/
theorem Trails.succeeded_iff (h : Trails log id recorded held) :
    recorded = some Status.succeeded ↔ held = some Status.succeeded := by
  rcases h with rfl | ⟨rfl, rfl | rfl, -⟩
  · rfl
  · simp [Status.succeeded, Status.requiresPaymentMethod, Status.requiresConfirmation]
  · simp [Status.succeeded, Status.requiresPaymentMethod, Status.requiresAction]

/-! ### The relation between the two stores -/

/-- The registry has no bounds and keeps step with the sandbox: as many records
as creations have succeeded, the same ids with the same secrets, and statuses
that trail at most by a declined confirmation. -/
structure InStep (log : List (Step Sandbox)) (s : Session Sandbox) : Prop where
  unbounded : s.registry.capacity = 0
  lasting : s.registry.ttl = 0
  size : s.registry.size = (log.filterMap Step.issued?).length
  secrets : ∀ id, (s.registry.get? id).map (·.clientSecret) =
    (s.remote.find? id).map (·.intent.clientSecret)
  statuses : ∀ id, Trails log id ((s.registry.get? id).map (·.status)) (s.remote.status? id)
  lifecycle : ∀ id st, s.remote.status? id = some st → st ∈ Sandbox.lifecycle

namespace InStep

variable {ids : Nat → String} {s : Session Sandbox} {op : Op}

theorem start : InStep [] (session 0 0) where
  unbounded := rfl
  lasting := rfl
  size := rfl
  secrets _ := rfl
  statuses _ := .inl rfl
  lifecycle _ _ h := by cases h

/-- What the sandbox does not hold the registry does not hold. -/
theorem held?_eq_none (hi : InStep log s) {id : String} (h : s.remote.find? id = none) :
    s.registry.held? id = none := by
  have hsecret := hi.secrets id
  rw [h, Option.map_none, Option.map_eq_none_iff, Registry.get?, Option.map_eq_none_iff,
    Registry.visible?_lasting hi.lasting] at hsecret
  exact hsecret

/-- A step that opens an intent adds it to both stores, with one status. -/
theorem opened (hi : InStep log s) (hc : Coherent s.registry.tables) (hn : Numbered ids s.remote)
    (hd : DistinctIds ids (s.step (provider ids) op).after.remote.taken) {i : Intent}
    (ho : (s.step (provider ids) op).opened? (provider ids) = some i) :
    InStep (log ++ [s.step (provider ids) op]) (s.step (provider ids) op).after := by
  obtain ⟨params, hnew, hremote⟩ := step_opened ho
  obtain ⟨hreg, ht⟩ := Handshake.step_opened_registry _ _ ho
  have hissued := Handshake.step_issued (provider ids) s op
  rw [ho, Option.map_some] at hissued
  have hd' : DistinctIds ids (s.remote.taken + 2) := by
    rw [hremote, store_taken] at hd
    exact hd
  have hfree : s.remote.find? i.id = none := by
    rw [hnew]
    exact hn.find?_new hd' (by omega)
  have hroom : ¬ s.registry.Full := fun hf => hf.1 hi.unbounded
  have hget : ∀ id, (s.registry.put i.id i.status i.clientSecret).get? id =
      if id = i.id then some ⟨i.id, i.status, i.clientSecret⟩ else s.registry.get? id :=
    Registry.get?_put hc (.inr hroom) i.status i.clientSecret
  have hfind := find?_store { s.remote with taken := s.remote.taken + 2 }
    (newHolding (ids (s.remote.taken + 1)) (ids (s.remote.taken + 2)) params)
  rw [← hnew] at hfind
  obtain ⟨hcap, httl⟩ := Handshake.step_bounds (provider ids) s op
  rw [← hreg] at hget
  rw [← hremote] at hfind
  refine ⟨hcap.trans hi.unbounded, httl.trans hi.lasting, ?_, fun id => ?_, fun id => ?_,
    fun id st hst => ?_⟩
  · rw [hreg, Registry.size_put_new hc (hi.held?_eq_none hfree) hroom, hi.size]
    simp [hissued]
  · rw [hget, hfind]
    split
    · rw [Option.map_some, Option.map_some, hnew]
    · exact hi.secrets id
  · rw [hget, status?, hfind]
    split
    · rw [Option.map_some, Option.map_some, hnew]
      exact .inl rfl
    · exact (hi.statuses id).snoc fun htarget => by rw [ht] at htarget; cases htarget
  · rw [status?, hfind] at hst
    split at hst
    · cases hst
      exact newHolding_status _ _ _
    · exact hi.lifecycle id st hst

/-- A step that resolves to an id changes the status of that id alone: in both
stores alike, or by a declined confirmation in the sandbox only. -/
theorem resolved (hi : InStep log s) (hc : Coherent s.registry.tables) {id : String}
    (ht : (s.step (provider ids) op).target? = some id) :
    InStep (log ++ [s.step (provider ids) op]) (s.step (provider ids) op).after := by
  obtain ⟨hcap, httl⟩ := Handshake.step_bounds (provider ids) s op
  obtain ⟨secret, rec, hfound, hid, -⟩ := Handshake.step_target_registry _ _ ht
  have hrec : s.registry.get? id = some rec := hid ▸ Registry.get?_of_find hc hfound
  have hget := Handshake.step_target_get? _ _ hc ht
  have hother : ∀ x, x ≠ id → (s.step (provider ids) op).after.remote.status? x =
      s.remote.status? x := by
    intro x hx
    have hsame := congrArg (Option.map (·.status)) ((step_target_other ht).2 x hx)
    simpa [status?, Function.comp_def] using hsame
  have hissued : (s.step (provider ids) op).issued? = none := by
    obtain ⟨publish, req, rec, rfl, -⟩ := Handshake.step_target _ _ ht
    rfl
  obtain ⟨reply, hturn, hsays⟩ := step_turn ht
  refine ⟨hcap.trans hi.unbounded, httl.trans hi.lasting, ?_, fun x => ?_, fun x => ?_,
    fun x st hst => ?_⟩
  · rw [Handshake.step_target_size _ _ hc ht, hi.size]
    simp [hissued]
  · rw [step_target_secret ht, hget, ← hi.secrets]
    split
    · rename_i hx
      rw [hx, hrec]
      rfl
    · rfl
  · rw [hget]
    split
    · rename_i hx
      subst hx
      have hbefore := hi.statuses x
      rw [hrec, Option.map_some] at hbefore ⊢
      cases hsays with
      | ok hret =>
        rw [hturn.ok_after, hret]
        exact .inl rfl
      | error hret hfault =>
        rw [hret]
        rcases hturn.error_cases with hsame | ⟨rfl, hafter, st, hst, hopen⟩
        · rw [hsame]
          exact hbefore.snoc fun _ => hret
        · rw [hafter]
          rw [hst] at hbefore
          exact hbefore.decline (hi.lifecycle x st hst) hopen ⟨ht, hfault⟩
    · rename_i hx
      rw [hother x hx]
      refine (hi.statuses x).snoc fun htarget => ?_
      exact absurd (Option.some.inj (htarget.symm.trans ht)) hx
  · by_cases hx : x = id
    · subst hx
      exact hturn.lifecycle (hi.lifecycle x) st hst
    · rw [hother x hx] at hst
      exact hi.lifecycle x st hst

/-- A step that does neither changes nothing. -/
theorem idle (hi : InStep log s) (hc : Coherent s.registry.tables) (hop : op.isRequest = true)
    (ho : (s.step (provider ids) op).opened? (provider ids) = none)
    (ht : (s.step (provider ids) op).target? = none) :
    InStep (log ++ [s.step (provider ids) op]) (s.step (provider ids) op).after := by
  have hreg := Handshake.step_registry_same _ _ hc hop ho ht
  have hremote := step_remote_same ho ht
  have hissued := Handshake.step_issued (provider ids) s op
  rw [ho, Option.map_none] at hissued
  refine ⟨hreg ▸ hi.unbounded, hreg ▸ hi.lasting, ?_, ?_, fun id => ?_, ?_⟩
  · rw [hreg, hi.size]
    simp [hissued]
  · rw [hreg, hremote]
    exact hi.secrets
  · rw [hreg, hremote]
    exact (hi.statuses id).snoc fun htarget => by rw [ht] at htarget; cases htarget
  · rw [hremote]
    exact hi.lifecycle

end InStep

/-- **Every request keeps the two stores in step.** -/
theorem step_inStep {ids : Nat → String} {s : Session Sandbox} {op : Op} (hi : InStep log s)
    (hc : Coherent s.registry.tables) (hn : Numbered ids s.remote) (hop : op.isRequest = true)
    (hd : DistinctIds ids (s.step (provider ids) op).after.remote.taken) :
    InStep (log ++ [s.step (provider ids) op]) (s.step (provider ids) op).after := by
  cases ho : (s.step (provider ids) op).opened? (provider ids) with
  | some i => exact hi.opened hc hn hd ho
  | none =>
    cases ht : (s.step (provider ids) op).target? with
    | some id => exact hi.resolved hc ht
    | none => exact hi.idle hc hop ho ht

theorem run_inStep (ids : Nat → String) (ops : List Op) (hops : ∀ op ∈ ops, op.isRequest = true)
    (hd : DistinctIds ids ((session 0 0).run (provider ids) ops).remote.taken) :
    InStep ((session 0 0).log (provider ids) ops) ((session 0 0).run (provider ids) ops) := by
  induction ops using List.reverseRecOn with
  | nil => exact .start
  | append_singleton ops op ih =>
    rw [Handshake.run_snoc] at hd ⊢
    rw [Handshake.log_append]
    have hi := ih (fun o ho => hops o (List.mem_append_left _ ho)) (hd.mono step_taken_le)
    have hc : Coherent ((session 0 0).run (provider ids) ops).registry.tables :=
      Handshake.run_coherent (provider ids) 0 0 empty ops
    have hn : Numbered ids ((session 0 0).run (provider ids) ops).remote :=
      run_numbered ids ops (numbered_empty ids)
    exact step_inStep hi hc hn (hops op (by simp)) hd

/-- **The registry and the sandbox agree**, after every list of creations and
confirmations on a registry without bounds, if the ids taken are distinct. They
hold the same ids with the same secrets; there are as many records as creations
that succeeded; the statuses are the same, but after a declined confirmation
the sandbox waits for a payment method while the registry still has what came
before it; and so the two agree on what has succeeded. -/
theorem registry_tracks_sandbox (ids : Nat → String) (ops : List Op)
    (hops : ∀ op ∈ ops, op.isRequest = true)
    (hd : DistinctIds ids ((session 0 0).run (provider ids) ops).remote.taken) :
    let log := (session 0 0).log (provider ids) ops
    let r := ((session 0 0).run (provider ids) ops).registry
    let b := ((session 0 0).run (provider ids) ops).remote
    (∀ id, (r.get? id).map (fun rec => (rec.id, rec.clientSecret)) =
      (b.find? id).map fun h => (h.intent.id, h.intent.clientSecret)) ∧
    r.size = (log.filterMap Step.issued?).length ∧
    (∀ id, (r.get? id).map (·.status) = b.status? id ∨
      b.status? id = some Status.requiresPaymentMethod ∧
        ((r.get? id).map (·.status) = some Status.requiresConfirmation ∨
          (r.get? id).map (·.status) = some Status.requiresAction) ∧
        DeclinedSince log id) ∧
    ∀ id, (r.get? id).map (·.status) = some Status.succeeded ↔
      b.status? id = some Status.succeeded := by
  intro log r b
  have hi : InStep log ⟨r, b⟩ := run_inStep ids ops hops hd
  have hc : Coherent r.tables := Handshake.run_coherent (provider ids) 0 0 empty ops
  refine ⟨fun id => ?_, hi.size, hi.statuses, fun id => (hi.statuses id).succeeded_iff⟩
  have hsecret : (r.get? id).map (·.clientSecret) = (b.find? id).map (·.intent.clientSecret) :=
    hi.secrets id
  cases hr : r.get? id with
  | none =>
    rw [hr, Option.map_none, eq_comm, Option.map_eq_none_iff] at hsecret
    rw [hsecret]
    rfl
  | some rec =>
    rw [hr, Option.map_some, eq_comm] at hsecret
    obtain ⟨h, hh, hsame⟩ := Option.map_eq_some_iff.mp hsecret
    rw [hh, Option.map_some, Option.map_some, Registry.id_of_get? hc hr, id_of_find? hh, hsame]

/-- Two intents, one of them declined: the sandbox has sent it back, and the
registry has not heard of it. -/
theorem registry_tracks_sandbox_declined :
    let ids := fun n => String.ofList (Nat.toDigits 10 n)
    let purchase : Op := .create (fun _ => none) ⟨.finite false 10 0, "usd", "pm_card_visa"⟩
    let decline : Op := .confirm (fun _ => none) ⟨"pi_1_secret_2", declinedMethod⟩
    let ops := [purchase, purchase, decline]
    let now := (session 0 0).run (provider ids) ops
    now.registry.size = 2 ∧
    (now.registry.get? "pi_1").map (·.status) = some Status.requiresConfirmation ∧
    now.remote.status? "pi_1" = some Status.requiresPaymentMethod ∧
    DeclinedSince ((session 0 0).log (provider ids) ops) "pi_1" := by
  intro ids purchase decline ops now
  have hrecorded : (now.registry.get? "pi_1").map (·.status) =
      some Status.requiresConfirmation := by decide +kernel
  have hheld : now.remote.status? "pi_1" = some Status.requiresPaymentMethod := by decide +kernel
  obtain ⟨-, hsize, hstatus, -⟩ :=
    registry_tracks_sandbox ids ops (by decide) (by decide +kernel)
  refine ⟨hsize.trans (by decide +kernel), hrecorded, hheld, ?_⟩
  rcases hstatus "pi_1" with hsame | ⟨-, -, hdeclined⟩
  · rw [hrecorded, hheld] at hsame
    simp [Status.requiresConfirmation, Status.requiresPaymentMethod] at hsame
  · exact hdeclined

end Sandbox
end PaymentGateway
