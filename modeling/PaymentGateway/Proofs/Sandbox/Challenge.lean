/-
# A payment goes through once, and not before its challenge

Over every session of the sandbox whose ids are distinct, an intent that went
through keeps its status, whatever is created, confirmed or done to the
registry, so every confirmation that resolves to it again is refused
(`log_succeeds_pairwise`): at most one confirmation of an id succeeds. An
intent that waits for its authentication step was brought there by the latest
confirmation that changed it, and that one said so (`run_challenged`); with the
method that asks for that step, nothing else goes through.

Key definitions: `Sandbox.Succeeds`, `Sandbox.Refused`, `Sandbox.Changes`.
Key theorems: `Sandbox.log_succeeds_pairwise`, `Sandbox.run_challenged`,
`Sandbox.succeeds_once_after_challenge`.
-/
import PaymentGateway.Proofs.Sandbox.Session

namespace PaymentGateway
namespace Sandbox

open Handshake (Op Session Step)

/-- A confirmation that resolves to an id and returns that it succeeded. -/
def Succeeds (st : Step Sandbox) (id : String) : Prop :=
  st.target? = some id ∧ st.returned? = some Status.succeeded

instance (st : Step Sandbox) (id : String) : Decidable (Succeeds st id) :=
  inferInstanceAs (Decidable (_ ∧ _))

/-- A confirmation that fails since the provider was asked in the wrong
state. -/
def Refused (st : Step Sandbox) : Prop :=
  ∃ cause report, st.fault? = some (.call Handshake.confirmOp (some cause)) ∧
    cause.remote? = some report ∧ report.code = "payment_intent_unexpected_state"

/-- A confirmation that resolves to an id and changes the status of its
intent. -/
def Changes (st : Step Sandbox) (id : String) : Prop :=
  st.target? = some id ∧ st.after.remote.status? id ≠ st.before.remote.status? id

variable {ids : Nat → String} {s : Session Sandbox} {op : Op} {id : String}

/-! ### Once through, always through -/

theorem Refused.not_succeeds {st : Step Sandbox} (h : Refused st) : ¬ Succeeds st id := by
  rintro ⟨-, hret⟩
  obtain ⟨cause, report, hfault, -⟩ := h
  unfold Step.returned? at hret
  unfold Step.fault? at hfault
  split at hret
  · rename_i hanswer
    simp [hanswer] at hfault
  · cases hret

/-- A confirmation that returns a status made a turn to it. -/
theorem turn_of_returned {status : String} (ht : (s.step (provider ids) op).target? = some id)
    (hret : (s.step (provider ids) op).returned? = some status) :
    ∃ i : Intent, i.status = status ∧
      Turn (s.remote.status? id) (method (s.step (provider ids) op) id) (.ok i)
        ((s.step (provider ids) op).after.remote.status? id) := by
  obtain ⟨reply, hturn, hsays⟩ := step_turn ht
  cases hsays with
  | error hnone _ =>
    rw [hnone] at hret
    cases hret
  | ok hi =>
    rw [hi] at hret
    exact ⟨_, Option.some.inj hret, hturn⟩

theorem Succeeds.status (h : Succeeds (s.step (provider ids) op) id) :
    (s.step (provider ids) op).after.remote.status? id = some Status.succeeded := by
  obtain ⟨i, hi, hturn⟩ := turn_of_returned h.1 h.2
  rw [hturn.ok_after, hi]

/-- A confirmation of an intent that went through is refused. -/
theorem step_refused (hs : s.remote.status? id = some Status.succeeded)
    (ht : (s.step (provider ids) op).target? = some id) : Refused (s.step (provider ids) op) := by
  obtain ⟨reply, hturn, hsays⟩ := step_turn ht
  rw [hs] at hturn
  obtain ⟨-, message, rfl⟩ := hturn.of_final rfl
  cases hsays with
  | error _ hfault => exact ⟨_, _, hfault, rfl, rfl⟩

/-- No step changes the status of an intent that went through. -/
theorem step_succeeded (hn : Numbered ids s.remote)
    (hd : DistinctIds ids (s.step (provider ids) op).after.remote.taken)
    (hs : s.remote.status? id = some Status.succeeded) :
    (s.step (provider ids) op).after.remote.status? id = some Status.succeeded := by
  by_cases ht : (s.step (provider ids) op).target? = some id
  · obtain ⟨reply, hturn, -⟩ := step_turn ht
    rw [hs] at hturn
    exact (hturn.of_final rfl).1
  · rcases step_status hn hd ht with hsame | ⟨hnone, -⟩
    · rw [hsame, hs]
    · rw [hs] at hnone
      cases hnone

/-- All that comes after an intent went through. -/
theorem log_refused (ids : Nat → String) : ∀ (ops : List Op) {s : Session Sandbox},
    Numbered ids s.remote → DistinctIds ids (s.run (provider ids) ops).remote.taken →
    s.remote.status? id = some Status.succeeded →
    ∀ st ∈ s.log (provider ids) ops, st.target? = some id → Refused st
  | [], _, _, _, _, st, hst, _ => by cases hst
  | op :: ops, s, hn, hd, hs, st, hst, ht => by
    rcases List.mem_cons.mp hst with rfl | hst
    · exact step_refused hs ht
    · have hd' := hd.mono (run_taken_le ids ops (s.step (provider ids) op).after)
      exact log_refused ids ops (step_numbered hn) hd (step_succeeded hn hd' hs) st hst ht

/-- **After a confirmation of an id that succeeds, every other one is
refused.** -/
theorem log_succeeds_pairwise (ids : Nat → String) (id : String) :
    ∀ (ops : List Op) {s : Session Sandbox}, Numbered ids s.remote →
    DistinctIds ids (s.run (provider ids) ops).remote.taken →
    (s.log (provider ids) ops).Pairwise
      fun a b => Succeeds a id → b.target? = some id → Refused b
  | [], _, _, _ => List.Pairwise.nil
  | op :: ops, s, hn, hd => by
    refine .cons (fun b hb hsucc ht => ?_) (log_succeeds_pairwise ids id ops (step_numbered hn) hd)
    exact log_refused ids ops (step_numbered hn) hd hsucc.status b hb ht

/-- So at most one of them succeeds. -/
theorem succeeds_le_one {log : List (Step Sandbox)}
    (h : log.Pairwise fun a b => Succeeds a id → b.target? = some id → Refused b) :
    (log.filter (Succeeds · id)).length ≤ 1 := by
  have hfilter := h.filter (Succeeds · id)
  have hall : ∀ st ∈ log.filter (Succeeds · id), Succeeds st id := by simp
  match hl : log.filter (Succeeds · id) with
  | [] => simp
  | [_] => simp
  | a :: b :: rest =>
    rw [hl] at hfilter hall
    have ha := hall a (by simp)
    have hb := hall b (by simp)
    have hrefused := (List.pairwise_cons.mp hfilter).1 b (by simp) ha hb.1
    exact absurd hb hrefused.not_succeeds

/-! ### Not before the challenge -/

/-- The latest confirmation in a log that changed the status of an id returned
that the customer has to act. -/
def Challenged (log : List (Step Sandbox)) (id : String) : Prop :=
  ∃ a c b, log = a ++ c :: b ∧ Changes c id ∧ c.returned? = some Status.requiresAction ∧
    ∀ x ∈ b, ¬ Changes x id

theorem Challenged.snoc {log : List (Step Sandbox)} {st : Step Sandbox} (h : Challenged log id)
    (hst : ¬ Changes st id) : Challenged (log ++ [st]) id := by
  obtain ⟨a, c, b, rfl, hc, hret, hb⟩ := h
  refine ⟨a, c, b ++ [st], by simp, hc, hret, fun x hx => ?_⟩
  rcases List.mem_append.mp hx with hx | hx
  · exact hb x hx
  · rw [List.mem_singleton.mp hx]
    exact hst

/-- A step after which an intent waits for the authentication step is the
challenge, or left it waiting. -/
theorem step_challenged (hn : Numbered ids s.remote)
    (hd : DistinctIds ids (s.step (provider ids) op).after.remote.taken)
    (hs : (s.step (provider ids) op).after.remote.status? id = some Status.requiresAction) :
    (Changes (s.step (provider ids) op) id ∧
      (s.step (provider ids) op).returned? = some Status.requiresAction) ∨
    (¬ Changes (s.step (provider ids) op) id ∧
      s.remote.status? id = some Status.requiresAction) := by
  unfold Changes
  rw [Handshake.step_before, hs]
  by_cases ht : (s.step (provider ids) op).target? = some id
  · obtain ⟨reply, hturn, hsays⟩ := step_turn ht
    rcases hturn.to_challenged hs with hbefore | ⟨hbefore, i, rfl, hi⟩
    · exact .inr ⟨fun hc => hc.2 hbefore.symm, hbefore⟩
    · cases hsays with
      | ok hret => exact .inl ⟨⟨ht, hbefore.symm⟩, hret.trans (congrArg some hi)⟩
  · refine .inr ⟨fun hc => ht hc.1, ?_⟩
    rcases step_status hn hd ht with hsame | ⟨-, hnew⟩
    · rw [← hsame, hs]
    · simp [hs, Status.requiresAction, Status.requiresPaymentMethod,
        Status.requiresConfirmation] at hnew

/-- **An intent waits for its authentication step only after a challenge.** -/
theorem run_challenged (ids : Nat → String) (capacity ttl : Int) (ops : List Op)
    (hd : DistinctIds ids ((session capacity ttl).run (provider ids) ops).remote.taken)
    (hs : ((session capacity ttl).run (provider ids) ops).remote.status? id =
      some Status.requiresAction) :
    Challenged ((session capacity ttl).log (provider ids) ops) id := by
  induction ops using List.reverseRecOn with
  | nil => cases hs
  | append_singleton ops op ih =>
    rw [Handshake.log_append]
    rw [Handshake.run_snoc] at hd hs
    have hn : Numbered ids ((session capacity ttl).run (provider ids) ops).remote :=
      run_numbered ids ops (numbered_empty ids)
    rcases step_challenged hn hd hs with ⟨hc, hret⟩ | ⟨hc, hwait⟩
    · exact ⟨_, _, [], rfl, hc, hret, by simp⟩
    · exact (ih (hd.mono step_taken_le) hwait).snoc hc

/-- **A payment goes through once, and not before its challenge**, in every
session of the sandbox whose ids are distinct: at most one confirmation of an
id succeeds, every one after it is refused, and with the challenged method it
succeeds only if the latest confirmation that changed the intent returned that
the customer has to act. -/
theorem succeeds_once_after_challenge (ids : Nat → String) (capacity ttl : Int) (ops : List Op)
    (hd : DistinctIds ids ((session capacity ttl).run (provider ids) ops).remote.taken)
    (id : String) :
    let log := (session capacity ttl).log (provider ids) ops
    (log.filter (Succeeds · id)).length ≤ 1 ∧
    log.Pairwise (fun a b => Succeeds a id → b.target? = some id → Refused b) ∧
    ∀ earlier st later, log = earlier ++ st :: later → Succeeds st id →
      method st id = challengedMethod → Challenged earlier id := by
  intro log
  have hpair := log_succeeds_pairwise ids id ops (numbered_empty ids) hd
  refine ⟨succeeds_le_one hpair, hpair, fun earlier st later hlog hsucc hm => ?_⟩
  obtain ⟨before, op, after, rfl, rfl, rfl⟩ := Handshake.log_split _ ops _ hlog
  obtain ⟨i, hi, hturn⟩ := turn_of_returned hsucc.1 hsucc.2
  refine run_challenged ids capacity ttl before ?_ (hturn.through_challenged hm hi)
  rw [Handshake.run_append] at hd
  exact hd.mono (run_taken_le ids _ _)

/-- The same confirmation three times: challenged, through, refused. -/
theorem challenged_then_through :
    let ids := fun n => String.ofList (Nat.toDigits 10 n)
    let purchase : Op := .create (fun _ => none) ⟨.finite false 10 0, "usd", ""⟩
    let pay : Op := .confirm (fun _ => none) ⟨"pi_1_secret_2", challengedMethod⟩
    let log := (session 0 0).log (provider ids) [purchase, pay, pay, pay]
    log.map (·.returned?) = [none, some Status.requiresAction, some Status.succeeded, none] ∧
    (log.filter (Succeeds · "pi_1")).length ≤ 1 ∧
    Challenged ((session 0 0).log (provider ids) [purchase, pay]) "pi_1" := by
  intro ids purchase pay log
  have hmain := succeeds_once_after_challenge ids 0 0 [purchase, pay, pay, pay]
    (by decide +kernel) "pi_1"
  refine ⟨by decide +kernel, hmain.1, ?_⟩
  exact hmain.2.2 _ _ _ (Handshake.log_append _ (session 0 0) [purchase, pay] [pay, pay])
    (by decide +kernel) (by decide +kernel)

end Sandbox
end PaymentGateway
