/-
# The lifecycle of an intent in the sandbox

The sandbox keeps an intent under its id, and an operation on one id leaves the
others alone. Of an intent, what matters for its lifecycle is its status and
the method it would be confirmed with. Attaching does not touch the status; a
confirmation makes one of five turns, listed with their conditions in `Turn`;
and a new intent starts without having been asked for anything.

Ids are numbered: the n-th id taken goes into the n-th place, so intents have
distinct ids and secrets as long as the ids taken are distinct.

Key definitions: `Sandbox.status?`, `Sandbox.effective`, `Sandbox.Turn`,
`Sandbox.lifecycle`, `Sandbox.DistinctIds`, `Sandbox.Numbered`.
Key theorems: `Sandbox.find?_store`, `Sandbox.attach_intent`,
`Sandbox.confirm_turn`, `Sandbox.confirm_other`.
-/
import PaymentGateway.Sandbox
import Mathlib.Data.List.Nodup

namespace PaymentGateway
namespace Sandbox

/-! ### Holdings under their ids -/

theorem find?_update (s : Sandbox) (h : Holding) (id : String) :
    (s.update h).find? id =
      if id = h.intent.id then (s.find? id).map fun _ => h else s.find? id := by
  unfold find? update
  simp only
  induction s.holdings with
  | nil => simp
  | cons x xs ih =>
    simp only [List.map_cons, List.find?_cons]
    by_cases hx : x.intent.id = h.intent.id
    · by_cases hid : id = h.intent.id
      · simp [hx, hid]
      · have hne : h.intent.id ≠ id := fun he => hid he.symm
        simpa [hx, hid, hne] using ih
    · by_cases hxid : x.intent.id = id
      · have hid : id ≠ h.intent.id := fun he => hx (hxid.trans he)
        simp [hxid, hid]
      · simpa [hx, hxid] using ih

theorem find?_store (s : Sandbox) (h : Holding) (id : String) :
    (s.store h).find? id = if id = h.intent.id then some h else s.find? id := by
  unfold store
  split
  · rename_i hsome
    obtain ⟨x, hx⟩ := Option.isSome_iff_exists.mp hsome
    rw [find?_update]
    by_cases hid : id = h.intent.id <;> simp [hid, hx]
  · rename_i hnone
    have hnone' : s.find? h.intent.id = none := by simpa using hnone
    unfold find? at hnone' ⊢
    simp only [List.find?_append]
    by_cases hid : id = h.intent.id
    · subst hid
      simp [hnone']
    · have hne : h.intent.id ≠ id := fun he => hid he.symm
      simp [hid, hne]

theorem id_of_find? {s : Sandbox} {id : String} {h : Holding} (hf : s.find? id = some h) :
    h.intent.id = id := by
  simpa using List.find?_some hf

/-- The status of the intent of an id. -/
def status? (s : Sandbox) (id : String) : Option String := (s.find? id).map (·.intent.status)

/-- The method that a confirmation of an id uses: the given one, or else the one
the intent has. -/
def effective (s : Sandbox) (id method : String) : String :=
  if method = "" then ((s.find? id).map (·.paymentMethod)).getD "" else method

/-! ### Attaching -/

/-- Attaching a method leaves every intent as it is. -/
theorem attach_intent (method target : String) (s : Sandbox) (id : String) :
    ((attach method target s).2.find? id).map (·.intent) = (s.find? id).map (·.intent) := by
  unfold attach
  split
  · rfl
  · rename_i h hf
    split
    · rfl
    · rw [find?_update]
      simp only [id_of_find? hf]
      by_cases hid : id = target
      · simp [hid, hf]
      · simp [hid]

theorem attach_status (method target : String) (s : Sandbox) (id : String) :
    (attach method target s).2.status? id = s.status? id := by
  have h := congrArg (Option.map (·.status)) (attach_intent method target s id)
  simpa [status?, Function.comp_def] using h

theorem attach_taken (method target : String) (s : Sandbox) :
    (attach method target s).2.taken = s.taken := by
  unfold attach
  split
  · rfl
  · split <;> rfl

/-! ### Confirming -/

/-- The turns of a confirmation: from the status before it and the method used,
to the reply and the status after it. -/
inductive Turn : Option String → String → Except Fault Intent → Option String → Prop where
  /-- There is no such intent. -/
  | missing {m : String} (f : Fault) : Turn none m (.error f) none
  /-- The intent is final, or it has no method to be confirmed with. -/
  | refused {st m : String} (h : isFinal st = true ∨ m = "") (message : String) :
    Turn (some st) m (.error (unexpectedState message)) (some st)
  /-- The method is declined. -/
  | declined {st : String} (h : isFinal st = false) :
    Turn (some st) declinedMethod (.error declined) (some Status.requiresPaymentMethod)
  /-- The method asks for an authentication step, which has not been taken. -/
  | challenged {st : String} (h : isFinal st = false) (hst : st ≠ Status.requiresAction)
    {i : Intent} (hi : i.status = Status.requiresAction) :
    Turn (some st) challengedMethod (.ok i) (some Status.requiresAction)
  /-- The payment goes through, after the authentication step if there is one. -/
  | through {st m : String} (h : isFinal st = false)
    (hst : m = challengedMethod → st = Status.requiresAction)
    {i : Intent} (hi : i.status = Status.succeeded) :
    Turn (some st) m (.ok i) (some Status.succeeded)

namespace Turn

variable {before after : Option String} {m : String} {reply : Except Fault Intent} {i : Intent}

theorem none_after (h : Turn none m reply after) : after = none := by
  cases h
  rfl

/-- The status after a confirmation that succeeds is the one it replies. -/
theorem ok_after (h : Turn before m (.ok i) after) : after = some i.status := by
  cases h with
  | challenged _ _ hi => rw [hi]
  | through _ _ hi => rw [hi]

/-- A final intent stays as it is, and every confirmation of it is refused. -/
theorem of_final {st : String} (h : Turn (some st) m reply after) (hfinal : isFinal st = true) :
    after = some st ∧ ∃ message, reply = .error (unexpectedState message) := by
  cases h with
  | refused _ message => exact ⟨rfl, message, rfl⟩
  | declined hopen => simp [hopen] at hfinal
  | challenged hopen => simp [hopen] at hfinal
  | through hopen => simp [hopen] at hfinal

/-- With the challenged method only an intent that waits for the authentication
step goes through. -/
theorem through_challenged (h : Turn before m (.ok i) after) (hm : m = challengedMethod)
    (hi : i.status = Status.succeeded) : before = some Status.requiresAction := by
  cases h with
  | challenged _ _ hi' => simp [hi', Status.requiresAction, Status.succeeded] at hi
  | through _ hst _ => rw [hst hm]

/-- An intent waits for the authentication step because it did before, or
because this confirmation said so. -/
theorem to_challenged (h : Turn before m reply after)
    (hafter : after = some Status.requiresAction) :
    before = some Status.requiresAction ∨ before ≠ some Status.requiresAction ∧
      ∃ i, reply = .ok i ∧ i.status = Status.requiresAction := by
  cases h with
  | missing f => cases hafter
  | refused _ _ => exact .inl hafter
  | declined _ => simp [Status.requiresPaymentMethod, Status.requiresAction] at hafter
  | challenged _ hst hi => exact .inr ⟨fun he => hst (Option.some.inj he), _, rfl, hi⟩
  | through _ _ _ => simp [Status.succeeded, Status.requiresAction] at hafter

end Turn

theorem confirmed_id (h : Holding) (m : String) : (confirmed h m).2.intent.id = h.intent.id := by
  unfold confirmed
  split
  · rfl
  · simp only
    split <;> rfl

theorem confirmed_secret (h : Holding) (m : String) :
    (confirmed h m).2.intent.clientSecret = h.intent.clientSecret := by
  unfold confirmed
  split
  · rfl
  · simp only
    split <;> rfl

/-- An intent that is not final is declined, challenged, or through. -/
theorem confirmed_turn {h : Holding} (hopen : isFinal h.intent.status = false) (m : String) :
    Turn (some h.intent.status) m (confirmed h m).1 (some (confirmed h m).2.intent.status) := by
  unfold confirmed
  split
  · rename_i hdeclined
    subst hdeclined
    exact .declined hopen
  · simp only
    split
    · rename_i hchallenge
      obtain ⟨rfl, hfirst⟩ := hchallenge
      exact .challenged hopen hfirst rfl
    · rename_i hpass
      refine .through hopen (fun hm => ?_) rfl
      by_contra hne
      exact hpass ⟨hm, hne⟩

/-- A confirmation of an intent that is there is refused and changes nothing, or
goes by the method it uses. -/
theorem confirm_cases {id : String} {s : Sandbox} {h : Holding} (hf : s.find? id = some h)
    (method : String) :
    ((isFinal h.intent.status = true ∨ s.effective id method = "") ∧
      ∃ message, confirm id method s = (.error (unexpectedState message), s)) ∨
    (isFinal h.intent.status = false ∧
      confirm id method s = ((confirmed h (s.effective id method)).1,
        s.update (confirmed h (s.effective id method)).2)) := by
  have hm : s.effective id method = if method = "" then h.paymentMethod else method := by
    simp [effective, hf]
  rw [hm]
  by_cases hfinal : isFinal h.intent.status = true
  · refine .inl ⟨.inl hfinal, ?_⟩
    simp only [confirm, hf, hfinal, ↓reduceIte]
    exact ⟨_, rfl⟩
  · have hopen : isFinal h.intent.status = false := by simpa using hfinal
    by_cases hbare : (if method = "" then h.paymentMethod else method) = ""
    · refine .inl ⟨.inr hbare, ?_⟩
      simp only [confirm, hf, hopen, hbare, Bool.false_eq_true, ↓reduceIte]
      exact ⟨_, rfl⟩
    · refine .inr ⟨hopen, ?_⟩
      simp only [confirm, hf, hopen, hbare, Bool.false_eq_true, ↓reduceIte]

/-- **A confirmation makes one of the turns.** -/
theorem confirm_turn (id method : String) (s : Sandbox) :
    Turn (s.status? id) (s.effective id method) (confirm id method s).1
      ((confirm id method s).2.status? id) := by
  cases hf : s.find? id with
  | none =>
    have hst : s.status? id = none := by simp [status?, hf]
    simp only [confirm, hf, hst]
    exact .missing _
  | some h =>
    have hst : s.status? id = some h.intent.status := by simp [status?, hf]
    rcases confirm_cases hf method with ⟨hno, message, hc⟩ | ⟨hopen, hc⟩
    · rw [hc, hst]
      exact .refused hno message
    · have hid : id = (confirmed h (s.effective id method)).2.intent.id :=
        ((confirmed_id h _).trans (id_of_find? hf)).symm
      have hafter : (s.update (confirmed h (s.effective id method)).2).status? id =
          some (confirmed h (s.effective id method)).2.intent.status := by
        rw [status?, find?_update, if_pos hid, hf]
        rfl
      rw [hc, hst]
      simp only [hafter]
      exact confirmed_turn hopen _

/-- A confirmation leaves the intents of other ids alone. -/
theorem confirm_other (target method : String) (s : Sandbox) {id : String} (hid : id ≠ target) :
    (confirm target method s).2.find? id = s.find? id := by
  cases hf : s.find? target with
  | none => simp [confirm, hf]
  | some h =>
    rcases confirm_cases hf method with ⟨-, message, hc⟩ | ⟨-, hc⟩
    · rw [hc]
    · rw [hc, find?_update, confirmed_id, id_of_find? hf, if_neg hid]

/-- A confirmation leaves every client secret as it is. -/
theorem confirm_secret (target method : String) (s : Sandbox) (id : String) :
    ((confirm target method s).2.find? id).map (·.intent.clientSecret) =
      (s.find? id).map (·.intent.clientSecret) := by
  by_cases hid : id = target
  · subst hid
    cases hf : s.find? id with
    | none => simp [confirm, hf]
    | some h =>
      rcases confirm_cases hf method with ⟨-, message, hc⟩ | ⟨-, hc⟩
      · rw [hc, hf]
      · have hown : id = (confirmed h (s.effective id method)).2.intent.id :=
          ((confirmed_id h _).trans (id_of_find? hf)).symm
        rw [hc, find?_update, if_pos hown, hf, Option.map_some, Option.map_some, Option.map_some,
          confirmed_secret]
  · rw [confirm_other _ _ _ hid]

theorem confirm_taken (target method : String) (s : Sandbox) :
    (confirm target method s).2.taken = s.taken := by
  cases hf : s.find? target with
  | none => simp [confirm, hf]
  | some h =>
    rcases confirm_cases hf method with ⟨-, message, hc⟩ | ⟨-, hc⟩ <;> rw [hc]
    rfl

/-! ### Statuses of the lifecycle -/

/-- The statuses that the sandbox gives an intent. -/
def lifecycle : List String :=
  [Status.requiresPaymentMethod, Status.requiresConfirmation, Status.requiresAction,
    Status.succeeded]

/-- A status in which an intent can still be confirmed. -/
theorem open_of_lifecycle {st : String} (h : st ∈ lifecycle) (hopen : isFinal st = false) :
    st = Status.requiresPaymentMethod ∨ st = Status.requiresConfirmation ∨
      st = Status.requiresAction := by
  simp only [lifecycle, List.mem_cons, List.not_mem_nil, or_false] at h
  rcases h with rfl | rfl | rfl | rfl
  · exact .inl rfl
  · exact .inr (.inl rfl)
  · exact .inr (.inr rfl)
  · simp [isFinal] at hopen

theorem newHolding_status (a b : String) (params : CreateParams) :
    (newHolding a b params).intent.status ∈ lifecycle := by
  by_cases hp : params.paymentMethod = "" <;> simp [newHolding, lifecycle, hp]

namespace Turn

variable {before after : Option String} {m : String} {reply : Except Fault Intent} {f : Fault}

/-- A turn leads to a status of the lifecycle. -/
theorem lifecycle (h : Turn before m reply after)
    (hb : ∀ st, before = some st → st ∈ Sandbox.lifecycle) :
    ∀ st, after = some st → st ∈ Sandbox.lifecycle := by
  intro st hst
  cases h with
  | missing f => cases hst
  | refused _ _ => exact hb st hst
  | declined _ =>
    cases hst
    simp [Sandbox.lifecycle]
  | challenged _ _ _ =>
    cases hst
    simp [Sandbox.lifecycle]
  | through _ _ _ =>
    cases hst
    simp [Sandbox.lifecycle]

/-- A confirmation that fails changes nothing, or it was declined. -/
theorem error_cases (h : Turn before m (.error f) after) :
    after = before ∨ f = Sandbox.declined ∧ after = some Status.requiresPaymentMethod ∧
      ∃ st, before = some st ∧ isFinal st = false := by
  cases h with
  | missing f => exact .inl rfl
  | refused _ _ => exact .inl rfl
  | declined hopen => exact .inr ⟨rfl, rfl, _, rfl, hopen⟩

end Turn

/-! ### Creating, and the numbers of ids -/

/-- The first `n` ids are pairwise distinct. -/
def DistinctIds (ids : Nat → String) (n : Nat) : Prop := ((List.range' 1 n).map ids).Nodup

instance (ids : Nat → String) (n : Nat) : Decidable (DistinctIds ids n) :=
  inferInstanceAs (Decidable ((List.range' 1 n).map ids).Nodup)

theorem DistinctIds.eq {ids : Nat → String} {n j k : Nat} (h : DistinctIds ids n) (hj : 0 < j)
    (hjn : j ≤ n) (hk : 0 < k) (hkn : k ≤ n) (he : ids j = ids k) : j = k := by
  refine List.inj_on_of_nodup_map h ?_ ?_ he <;> rw [List.mem_range'_1] <;> omega

theorem DistinctIds.mono {ids : Nat → String} {m n : Nat} (h : DistinctIds ids n) (hmn : m ≤ n) :
    DistinctIds ids m := by
  refine List.Nodup.sublist (List.Sublist.map _ ?_) h
  obtain ⟨d, rfl⟩ := Nat.exists_eq_add_of_le hmn
  rw [← List.range'_append_1]
  exact List.sublist_append_left _ _

/-- What a creation that succeeds gives and keeps. -/
theorem create_ok {ids : Nat → String} {params : CreateParams} {s : Sandbox} {i : Intent}
    (h : (create ids params s).1 = .ok i) :
    ∃ new, new.intent = i ∧ new = newHolding (ids (s.taken + 1)) (ids (s.taken + 2)) params ∧
      (create ids params s).2 = { s with taken := s.taken + 2 }.store new := by
  cases hr : refuse? params with
  | some f => simp [create, hr] at h
  | none =>
    refine ⟨_, ?_, rfl, ?_⟩
    · simpa [create, hr] using h
    · simp [create, hr]

theorem create_error {ids : Nat → String} {params : CreateParams} {s : Sandbox} {f : Fault}
    (h : (create ids params s).1 = .error f) : (create ids params s).2 = s := by
  cases hr : refuse? params with
  | some f => simp [create, hr]
  | none => simp [create, hr] at h

theorem store_taken (s : Sandbox) (h : Holding) : (s.store h).taken = s.taken := by
  unfold store
  split <;> rfl

/-- Every intent held has one of the ids taken. -/
def Numbered (ids : Nat → String) (s : Sandbox) : Prop :=
  ∀ id, (s.find? id).isSome → ∃ k, 0 < k ∧ k ≤ s.taken ∧ id = "pi_" ++ ids k

/-- A number that was not taken is the number of no intent. -/
theorem Numbered.find?_new {ids : Nat → String} {s : Sandbox} (hn : Numbered ids s) {n : Nat}
    (hd : DistinctIds ids n) (hlt : s.taken < n) : s.find? ("pi_" ++ ids (s.taken + 1)) = none := by
  by_contra hsome
  obtain ⟨k, hk0, hk, he⟩ := hn _ (Option.isSome_iff_ne_none.mpr hsome)
  have heq : ids (s.taken + 1) = ids k := (String.append_right_inj "pi_").mp he
  have hnum := hd.eq (by omega) (by omega) hk0 (by omega) heq
  omega

end Sandbox
end PaymentGateway
