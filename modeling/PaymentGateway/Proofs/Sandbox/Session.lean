/-
# Sessions over the sandbox

What the steps of a session do to the sandbox. A creation that opens an intent
takes the next two ids, the first for the intent and the second for its secret;
a confirmation that resolves to an id makes a turn of that id (`step_turn`);
every other step leaves the sandbox as it is. So every intent held has one of
the ids taken (`run_numbered`), and as long as the ids taken are distinct, a
step changes the status of an intent only by confirming it (`step_status`), and
intents have distinct ids and, if ids have one length, distinct secrets
(`run_fresh`).

Key definitions: `Sandbox.session`, `Sandbox.method`.
Key theorems: `Sandbox.step_turn`, `Sandbox.step_status`,
`Sandbox.run_numbered`, `Sandbox.run_fresh`.
-/
import PaymentGateway.Proofs.Handshake.Session
import PaymentGateway.Proofs.Sandbox.Lifecycle
import Mathlib.Data.List.Induction

namespace PaymentGateway

/-- Every id made of 16 random bytes has 24 digits. -/
theorem CompactId.length_ofRandom (bytes : Vector UInt8 16) :
    (CompactId.ofRandom bytes.toList).length = 24 := by
  have hdigits : ∀ b : UInt8, (Text.Hex.padded 2 b.toNat).length = 2 := fun b => rfl
  have hmark : (CompactId.mark bytes.toList).length = 16 := by simp [CompactId.mark]
  rw [CompactId.ofRandom, String.length_ofList, List.length_take, List.length_flatMap]
  simp [hdigits, hmark]

namespace Sandbox

open Handshake (Op Session Step)

/-- A session that starts with an empty registry and an empty sandbox. -/
def session (capacity ttl : Int) : Session Sandbox := ⟨Registry.new capacity ttl, empty⟩

variable {ids : Nat → String} {s : Session Sandbox} {op : Op}

theorem provider_confirm : (provider ids).confirm = confirm := rfl

/-! ### Creations -/

/-- A step that opens an intent takes two ids and keeps the new holding. -/
theorem step_opened {i : Intent} (h : (s.step (provider ids) op).opened? (provider ids) = some i) :
    ∃ params, i = (newHolding (ids (s.remote.taken + 1)) (ids (s.remote.taken + 2)) params).intent ∧
      (s.step (provider ids) op).after.remote =
        { s.remote with taken := s.remote.taken + 2 }.store
          (newHolding (ids (s.remote.taken + 1)) (ids (s.remote.taken + 2)) params) := by
  cases op with
  | confirm publish req => simp [Session.step, Step.opened?] at h
  | registry change => simp [Session.step, Step.opened?] at h
  | create publish req =>
    have ho : Handshake.opened? (provider ids) s.remote req = some i := h
    unfold Handshake.opened? at ho
    cases ha : Handshake.accept req with
    | error f => simp [ha] at ho
    | ok params =>
      have hok : (create ids params s.remote).1 = .ok i := by
        cases hc : (create ids params s.remote).1 <;>
          simp [ha, provider, hc, Except.toOption] at ho
        rw [ho]
      obtain ⟨new, hi, hnew, hafter⟩ := create_ok hok
      refine ⟨params, by rw [← hi, hnew], ?_⟩
      simp only [Session.step, Handshake.create_remote, ha]
      rw [← hnew, ← hafter]
      rfl

/-- A step that neither opens an intent nor resolves to one leaves the sandbox
alone. -/
theorem step_remote_same (ho : (s.step (provider ids) op).opened? (provider ids) = none)
    (ht : (s.step (provider ids) op).target? = none) :
    (s.step (provider ids) op).after.remote = s.remote := by
  cases op with
  | confirm publish req => exact Handshake.step_remote_of_not_target _ _ ht (by simp)
  | registry change => rfl
  | create publish req =>
    have ho' : Handshake.opened? (provider ids) s.remote req = none := ho
    unfold Handshake.opened? at ho'
    simp only [Session.step, Handshake.create_remote]
    cases ha : Handshake.accept req with
    | error f => rfl
    | ok params =>
      cases hc : (create ids params s.remote).1 with
      | ok i => simp [ha, provider, hc, Except.toOption] at ho'
      | error f => exact create_error hc

/-! ### Confirmations -/

theorem attached_eq (rec : Record) (m : String) (b : Sandbox) :
    Handshake.attached (provider ids) b rec m = if m = "" then b else (attach m rec.id b).2 :=
  Handshake.attached_eq (provider ids) b rec m

/-- The payment method that a confirmation goes by: the trimmed method of the
request, or else the one that the intent has. -/
def method (st : Step Sandbox) (id : String) : String :=
  match st.op with
  | .confirm _ req => st.before.remote.effective id (Text.trim req.paymentMethod)
  | _ => ""

/-- **A step that resolves to an id makes a turn of it** and says so. -/
theorem step_turn {id : String} (h : (s.step (provider ids) op).target? = some id) :
    ∃ reply, Turn (s.remote.status? id) (method (s.step (provider ids) op) id) reply
        ((s.step (provider ids) op).after.remote.status? id) ∧
      (s.step (provider ids) op).Says reply := by
  obtain ⟨publish, req, rec, rfl, -, rfl, hafter, hsays⟩ := Handshake.step_target _ _ h
  refine ⟨_, ?_, hsays⟩
  rw [hafter, Handshake.reply, provider_confirm]
  have hturn := confirm_turn rec.id (Text.trim req.paymentMethod)
    (Handshake.attached (provider ids) s.remote rec (Text.trim req.paymentMethod))
  -- the attach before it changes neither the status nor the method used
  have hst : (Handshake.attached (provider ids) s.remote rec
      (Text.trim req.paymentMethod)).status? rec.id = s.remote.status? rec.id := by
    rw [attached_eq]
    split
    · rfl
    · exact attach_status _ _ _ _
  have hm : (Handshake.attached (provider ids) s.remote rec
      (Text.trim req.paymentMethod)).effective rec.id (Text.trim req.paymentMethod) =
        s.remote.effective rec.id (Text.trim req.paymentMethod) := by
    rw [attached_eq]
    split
    · rfl
    · rename_i hne
      simp [effective, hne]
  rw [hst, hm] at hturn
  exact hturn

/-- A step that resolves to an id takes no ids and leaves the intents of other
ids as they are. -/
theorem step_target_other {id : String} (h : (s.step (provider ids) op).target? = some id) :
    (s.step (provider ids) op).after.remote.taken = s.remote.taken ∧
      ∀ other, other ≠ id → ((s.step (provider ids) op).after.remote.find? other).map (·.intent) =
        (s.remote.find? other).map (·.intent) := by
  obtain ⟨publish, req, rec, rfl, -, rfl, hafter, -⟩ := Handshake.step_target _ _ h
  rw [hafter, attached_eq, provider_confirm]
  constructor
  · rw [confirm_taken]
    split
    · rfl
    · exact attach_taken _ _ _
  · intro other ho
    rw [confirm_other _ _ _ ho]
    split
    · rfl
    · exact attach_intent _ _ _ _

/-- A step that resolves to an id leaves every client secret as it is. -/
theorem step_target_secret {id : String} (h : (s.step (provider ids) op).target? = some id)
    (other : String) :
    ((s.step (provider ids) op).after.remote.find? other).map (·.intent.clientSecret) =
      (s.remote.find? other).map (·.intent.clientSecret) := by
  obtain ⟨publish, req, rec, rfl, -, rfl, hafter, -⟩ := Handshake.step_target _ _ h
  rw [hafter, attached_eq, provider_confirm, confirm_secret]
  split
  · rfl
  · have hsame := attach_intent (Text.trim req.paymentMethod) rec.id s.remote other
    simpa [Function.comp_def] using congrArg (Option.map (·.clientSecret)) hsame

/-! ### Numbers -/

theorem step_taken : (s.step (provider ids) op).after.remote.taken = s.remote.taken ∨
    (s.step (provider ids) op).after.remote.taken = s.remote.taken + 2 := by
  cases ho : (s.step (provider ids) op).opened? (provider ids) with
  | some i =>
    obtain ⟨params, -, hafter⟩ := step_opened ho
    rw [hafter, store_taken]
    exact .inr rfl
  | none =>
    cases ht : (s.step (provider ids) op).target? with
    | some id => exact .inl (step_target_other ht).1
    | none =>
      rw [step_remote_same ho ht]
      exact .inl rfl

theorem step_taken_le : s.remote.taken ≤ (s.step (provider ids) op).after.remote.taken := by
  have h := @step_taken ids s op
  omega

theorem run_taken_le (ids : Nat → String) : ∀ (ops : List Op) (s : Session Sandbox),
    s.remote.taken ≤ (s.run (provider ids) ops).remote.taken
  | [], _ => Nat.le_refl _
  | _ :: ops, _ => Nat.le_trans step_taken_le (run_taken_le ids ops _)

theorem find?_isSome_iff (b : Sandbox) (id : String) :
    (b.find? id).isSome ↔ b.status? id ≠ none := by
  cases h : b.find? id <;> simp [status?, h]

/-- A step keeps intents on the ids taken. -/
theorem step_numbered (hn : Numbered ids s.remote) :
    Numbered ids (s.step (provider ids) op).after.remote := by
  intro id hid
  have hle : s.remote.taken ≤ (s.step (provider ids) op).after.remote.taken := step_taken_le
  have hold : (s.remote.find? id).isSome → ∃ k, 0 < k ∧
      k ≤ (s.step (provider ids) op).after.remote.taken ∧ id = "pi_" ++ ids k := by
    intro h
    obtain ⟨k, hk0, hk, he⟩ := hn id h
    exact ⟨k, hk0, Nat.le_trans hk hle, he⟩
  cases ho : (s.step (provider ids) op).opened? (provider ids) with
  | some i =>
    obtain ⟨params, -, hafter⟩ := step_opened ho
    rw [hafter, find?_store] at hid
    split at hid
    · rename_i he
      refine ⟨s.remote.taken + 1, Nat.succ_pos _, ?_, he⟩
      rw [hafter, store_taken]
      exact Nat.le_succ _
    · exact hold hid
  | none =>
    cases ht : (s.step (provider ids) op).target? with
    | none =>
      rw [step_remote_same ho ht] at hid
      exact hold hid
    | some target =>
      refine hold ?_
      by_cases he : id = target
      · subst he
        obtain ⟨reply, hturn, -⟩ := step_turn ht
        rw [find?_isSome_iff] at hid ⊢
        intro hnone
        rw [hnone] at hturn
        exact hid hturn.none_after
      · have hsame := (step_target_other ht).2 id he
        rw [← Option.isSome_map (f := fun h : Holding => h.intent)] at hid ⊢
        rw [← hsame]
        exact hid

theorem run_numbered (ids : Nat → String) : ∀ (ops : List Op) {s : Session Sandbox},
    Numbered ids s.remote → Numbered ids (s.run (provider ids) ops).remote
  | [], _, hn => hn
  | _ :: ops, _, hn => run_numbered ids ops (step_numbered hn)

theorem numbered_empty (ids : Nat → String) : Numbered ids empty := by
  intro id hid
  simp [find?, empty] at hid

/-- **Only a confirmation changes the status of an intent**: a step that does
not resolve to an id leaves its status alone, or opens the intent of that id,
which nothing was asked of yet. -/
theorem step_status (hn : Numbered ids s.remote)
    (hd : DistinctIds ids (s.step (provider ids) op).after.remote.taken) {id : String}
    (ht : (s.step (provider ids) op).target? ≠ some id) :
    (s.step (provider ids) op).after.remote.status? id = s.remote.status? id ∨
      s.remote.status? id = none ∧
        ((s.step (provider ids) op).after.remote.status? id = some Status.requiresPaymentMethod ∨
          (s.step (provider ids) op).after.remote.status? id =
            some Status.requiresConfirmation) := by
  cases ho : (s.step (provider ids) op).opened? (provider ids) with
  | none =>
    left
    cases htarget : (s.step (provider ids) op).target? with
    | none => rw [step_remote_same ho htarget]
    | some target =>
      have hne : id ≠ target := fun he => ht (he ▸ htarget)
      have hsame := congrArg (Option.map (·.status)) ((step_target_other htarget).2 id hne)
      simpa [status?, Function.comp_def] using hsame
  | some i =>
    obtain ⟨params, -, hafter⟩ := step_opened ho
    have hd' : DistinctIds ids (s.remote.taken + 2) := by
      rw [hafter, store_taken] at hd
      exact hd
    rw [hafter]
    simp only [status?, find?_store]
    split
    · rename_i he
      right
      have hnone : s.remote.find? id = none := he ▸ hn.find?_new hd' (by omega)
      refine ⟨by simp [hnone], ?_⟩
      by_cases hp : params.paymentMethod = "" <;> simp [newHolding, hp]
    · exact .inl rfl

/-! ### The intents of a run -/

/-- An intent opened in a run has the id of its number, and its secret goes on
with the next one. -/
theorem opened_numbers (ids : Nat → String) (capacity ttl : Int) (ops : List Op) :
    ∀ i ∈ (session capacity ttl).opened (provider ids) ops, ∃ k, 0 < k ∧
      k < ((session capacity ttl).run (provider ids) ops).remote.taken ∧
      i.id = "pi_" ++ ids k ∧ i.clientSecret = "pi_" ++ ids k ++ "_secret_" ++ ids (k + 1) := by
  induction ops using List.reverseRecOn with
  | nil => simp [Session.opened, Session.log]
  | append_singleton ops op ih =>
    intro i hi
    rw [Handshake.run_snoc]
    rw [Handshake.opened_snoc] at hi
    rcases List.mem_append.mp hi with hi | hi
    · obtain ⟨k, hk0, hk, hid, hsec⟩ := ih i hi
      exact ⟨k, hk0, Nat.lt_of_lt_of_le hk step_taken_le, hid, hsec⟩
    · obtain ⟨params, rfl, hafter⟩ := step_opened (Option.mem_toList.mp hi)
      refine ⟨_, Nat.succ_pos _, ?_, rfl, rfl⟩
      rw [hafter, store_taken]
      exact Nat.lt_succ_self _

/-- Where ids have one length, the id can be read back off the secret. -/
theorem secret_inj {a b a' b' : String} (hlen : a.length = a'.length)
    (h : "pi_" ++ a ++ "_secret_" ++ b = "pi_" ++ a' ++ "_secret_" ++ b') : a = a' := by
  have hl : "pi_".toList ++ (a.toList ++ ("_secret_".toList ++ b.toList)) =
      "pi_".toList ++ (a'.toList ++ ("_secret_".toList ++ b'.toList)) := by
    simpa only [String.toList_append, List.append_assoc] using congrArg String.toList h
  have hlen' : a.toList.length = a'.toList.length := by
    rw [String.length_toList, String.length_toList, hlen]
  exact String.toList_inj.mp (List.append_inj (List.append_cancel_left hl) hlen').1

/-- **The sandbox opens fresh intents** as long as the ids it takes are distinct
and have one length. -/
theorem run_fresh {ids : Nat → String} (hlen : ∀ m n, (ids m).length = (ids n).length)
    (capacity ttl : Int) (ops : List Op)
    (hd : DistinctIds ids ((session capacity ttl).run (provider ids) ops).remote.taken) :
    Handshake.Fresh ((session capacity ttl).opened (provider ids) ops) := by
  induction ops using List.reverseRecOn with
  | nil => exact ⟨List.nodup_nil, List.nodup_nil⟩
  | append_singleton ops op ih =>
    rw [Handshake.run_snoc] at hd
    have hfresh := ih (hd.mono step_taken_le)
    have hnum := opened_numbers ids capacity ttl ops
    rw [Handshake.opened_snoc]
    cases ho : (((session capacity ttl).run (provider ids) ops).step (provider ids) op).opened?
        (provider ids) with
    | none => simpa using hfresh
    | some i =>
      obtain ⟨params, hi, hafter⟩ := step_opened ho
      have htaken : DistinctIds ids
          (((session capacity ttl).run (provider ids) ops).remote.taken + 2) := by
        rw [hafter, store_taken] at hd
        exact hd
      -- the new number is none of the old ones, so neither its id nor its secret is
      have hnew : ∀ k, 0 < k → k < ((session capacity ttl).run (provider ids) ops).remote.taken →
          ids k ≠ ids (((session capacity ttl).run (provider ids) ops).remote.taken + 1) := by
        intro k hk0 hk he
        have hkn := htaken.eq hk0 (by omega) (by omega) (by omega) he
        omega
      refine hfresh.snoc fun j hj => ?_
      obtain ⟨k, hk0, hk, hid, hsec⟩ := hnum j hj
      constructor
      · rw [hid, hi]
        exact fun he => hnew k hk0 hk ((String.append_right_inj "pi_").mp he)
      · rw [hsec, hi]
        exact fun he => hnew k hk0 hk (secret_inj (hlen _ _) he)

end Sandbox
end PaymentGateway
