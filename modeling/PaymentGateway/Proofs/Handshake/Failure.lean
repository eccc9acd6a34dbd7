/-
# A failed operation changes nothing

A creation that fails leaves the registry as it is. A confirmation that fails
leaves all that the registry holds as it is; since looking up a record counts
as use, the record it resolved may have moved to the front. Neither publishes
an event.

An operation fails in one of two ways. Either it refuses the request itself,
for a bad field or an unknown secret (`Fault.isLocal`): then nothing has
happened at all, no call, no log line, no span. Or the provider failed: then
the fault comes inside `Fault.call`, whatever it is made of (`create_fails`,
`confirm_fails`). A provider's fault that looks like a refusal is thereby told
from a refusal.

Key definitions: `Fault.isLocal`, `Registry.Undisturbed`.
Key theorems: `Handshake.create_fails`, `Handshake.confirm_fails`,
`Handshake.failure_changes_nothing`.
-/
import PaymentGateway.Proofs.Handshake.Session

namespace PaymentGateway

/-- A fault of the handshake itself: a bad request field or an unknown client
secret. -/
def Fault.isLocal : Fault → Bool
  | .invalid _ => true
  | .notFound => true
  | _ => false

/-- All that a lookup by a secret may change: the same entries are held, with
the same records and the same expiries, the indexes, the bounds, the clock and
the sweeper are the same, and the order is the same or the entry of the record
found has moved to the front. -/
structure Registry.Undisturbed (r : Registry) (secret : String) (after : Registry) : Prop where
  held : ∀ id, after.held? id = r.held? id
  bySecret : after.bySecret = r.bySecret
  byId : after.byId = r.byId
  size : after.size = r.size
  clock : after.now = r.now ∧ after.ttl = r.ttl ∧ after.capacity = r.capacity ∧
    after.sweeper = r.sweeper
  order : after.entries = r.entries ∨ ∃ newer e older, (r.find secret).1 = some e.record ∧
    r.entries = newer ++ e :: older ∧ after.entries = e :: (newer ++ older)

namespace Registry

theorem Undisturbed.refl (r : Registry) (secret : String) : r.Undisturbed secret r where
  held _ := rfl
  bySecret := rfl
  byId := rfl
  size := rfl
  clock := ⟨rfl, rfl, rfl, rfl⟩
  order := .inl rfl

/-- A lookup by secret disturbs nothing. -/
theorem find_undisturbed {r : Registry} (hc : Coherent r.tables) (secret : String) :
    r.Undisturbed secret (r.find secret).2 := by
  cases hf : (r.find secret).1 with
  | none =>
    rw [find_none hc hf]
    exact .refl r secret
  | some rec =>
    have hheld := held?_find hc.keys secret
    have hsize := size_find hc.keys secret
    obtain ⟨newer, e, older, rfl, hsplit, hafter⟩ := find_some hc.keys hf
    rw [hafter] at hheld hsize ⊢
    exact ⟨hheld, rfl, rfl, hsize, ⟨rfl, rfl, rfl, rfl⟩,
      .inr ⟨newer, e, older, hf, hsplit, rfl⟩⟩

end Registry

namespace Handshake

variable {σ : Type} {p : Provider σ} {publish : Publish} {r : Registry} {s : σ} {f : Fault}

/-! ### How a creation fails -/

theorem minorUnits_error {x : Binary64} (h : minorUnits x = .error f) : f.isLocal = true := by
  unfold minorUnits at h
  split at h
  · cases h
    rfl
  · cases h
    rfl
  · cases h
    rfl
  · cases h
    rfl
  · simp only at h
    split at h
    · cases h
      rfl
    · split at h <;> cases h
      rfl

/-- A request is refused with a fault of the handshake's own. -/
theorem accept_error {req : CreateRequest} (h : accept req = .error f) : f.isLocal = true := by
  unfold accept at h
  simp only at h
  split at h
  · cases h
    rfl
  · split at h
    · cases hm : minorUnits req.amount with
      | error g =>
        rw [hm] at h
        cases h
        exact minorUnits_error hm
      | ok amount =>
        rw [hm] at h
        cases h
    · cases h
      rfl

/-- **The two ways in which a creation fails**: refused before anything is
done, or by the provider. -/
theorem create_fails {req : CreateRequest} (h : (create p publish r s req).result = .error f) :
    (f.isLocal = true ∧ create p publish r s req = ⟨.error f, r, s, .empty⟩) ∨
    ∃ params g, f = .call createOp (some g) ∧ (p.create params s).1 = .error g ∧
      create p publish r s req = ⟨.error f, r, (p.create params s).2,
        .ofCall (.create params) ++ failure createOp (createSpan params) g⟩ := by
  cases ha : accept req with
  | error g =>
    have hc : create p publish r s req = ⟨.error g, r, s, .empty⟩ := by simp [create, ha]
    rw [hc] at h ⊢
    cases h
    exact .inl ⟨accept_error ha, rfl⟩
  | ok params =>
    rcases hp : p.create params s with ⟨g | i, s'⟩
    · have hc : create p publish r s req = ⟨.error (.call createOp (some g)), r, s',
          .ofCall (.create params) ++ failure createOp (createSpan params) g⟩ := by
        simp [create, ha, hp]
      rw [hc] at h ⊢
      cases h
      exact .inr ⟨params, g, rfl, by rw [hp], by rw [hp]⟩
    · simp [create, ha, hp] at h

/-! ### How a confirmation fails -/

theorem failure_events (op : String) (span : Span) (g : Fault) : (failure op span g).events = [] :=
  rfl

theorem attach_events (id method : String) : (attach p s id method).2.2.events = [] := by
  unfold attach
  split
  · rfl
  · rcases p.attach method id s with ⟨answer, s'⟩
    simp only [attachTrace]
    split <;> simp

theorem confirmRecord_error_events {rec : Record} {method : String}
    (h : reply p s rec method = .error f) :
    (confirmRecord p publish r s rec method).trace.events = [] := by
  rcases ha : attach p s rec.id method with ⟨outcome, s', trace⟩
  have hevents : trace.events = [] := by
    have hattach := attach_events (p := p) (s := s) rec.id method
    rwa [ha] at hattach
  rcases hc : p.confirm rec.id method s' with ⟨g | i, s''⟩
  · simp [confirmRecord, ha, hc, hevents, failure_events]
  · simp [reply, attached, ha, hc] at h

/-- **The two ways in which a confirmation fails**: refused before anything is
done, or by the provider, after the lookup. -/
theorem confirm_fails (hc : Registry.Coherent r.tables) {req : ConfirmRequest}
    (h : (confirm p publish r s req).result = .error f) :
    (f.isLocal = true ∧ confirm p publish r s req = ⟨.error f, r, s, .empty⟩) ∨
    ∃ g, f = .call confirmOp (some g) ∧
      (confirm p publish r s req).registry = (r.find req.clientSecret).2 ∧
      (confirm p publish r s req).trace.events = [] := by
  by_cases hs : req.clientSecret = ""
  · rw [confirm_empty p publish r s hs] at h ⊢
    cases h
    exact .inl ⟨rfl, rfl⟩
  cases hf : (r.find req.clientSecret).1 with
  | none =>
    rw [confirm_unresolved p publish s hs hf, Registry.find_none hc hf] at h ⊢
    cases h
    exact .inl ⟨rfl, rfl⟩
  | some rec =>
    rw [confirm_resolved p publish s hf] at h ⊢
    cases hr : reply p s rec (Text.trim req.paymentMethod) with
    | ok i =>
      rw [(confirmRecord_ok p publish _ s rec _ hr).1] at h
      cases h
    | error g =>
      obtain ⟨hres, hreg⟩ :=
        confirmRecord_error p publish (r.find req.clientSecret).2 s rec _ hr
      rw [hres] at h
      cases h
      exact .inr ⟨g, rfl, hreg, confirmRecord_error_events hr⟩

/-- **A failed operation changes nothing**, in every registry that operations
lead to, for every provider and every request. A creation that fails leaves
the registry as it is, a confirmation that fails leaves it undisturbed, and
neither publishes an event. If the fault is the handshake's own, then the
provider was not asked and nothing is left behind. -/
theorem failure_changes_nothing (capacity ttl : Int) (changes : List Registry.Op)
    (p : Provider σ) (publish : Publish) (s : σ) :
    let r := (Registry.new capacity ttl).run changes
    (∀ req f, (create p publish r s req).result = .error f →
      (create p publish r s req).registry = r ∧
      (create p publish r s req).trace.events = [] ∧
      (f.isLocal = true → (create p publish r s req).remote = s ∧
        (create p publish r s req).trace = .empty)) ∧
    (∀ req f, (confirm p publish r s req).result = .error f →
      r.Undisturbed req.clientSecret (confirm p publish r s req).registry ∧
      (confirm p publish r s req).trace.events = [] ∧
      (f.isLocal = true → (confirm p publish r s req).remote = s ∧
        (confirm p publish r s req).trace = .empty)) := by
  intro r
  have hcoh : Registry.Coherent r.tables := Registry.coherent_run capacity ttl changes
  refine ⟨fun req f h => ?_, fun req f h => ?_⟩
  · rcases create_fails h with ⟨-, hc⟩ | ⟨params, g, rfl, -, hc⟩
    · rw [hc]
      exact ⟨rfl, rfl, fun _ => ⟨rfl, rfl⟩⟩
    · rw [hc]
      exact ⟨rfl, rfl, fun hlocal => by cases hlocal⟩
  · rcases confirm_fails hcoh h with ⟨-, hc⟩ | ⟨g, rfl, hreg, hevents⟩
    · rw [hc]
      exact ⟨.refl r _, rfl, fun _ => ⟨rfl, rfl⟩⟩
    · rw [hreg]
      exact ⟨Registry.find_undisturbed hcoh _, hevents, fun hlocal => by cases hlocal⟩

/-- A creation without a currency, and a confirmation that the provider
declines: the record it resolved was the older of two and is the first now. -/
theorem failure_changes_nothing_declined :
    let declined : Fault := .remote "confirm" "card_declined" "Your card was declined." 402 none
    let script : Script := ⟨.error .canceled, .error declined, some .alreadyAttached⟩
    let changes : List Registry.Op :=
      [.put "pi_1" Status.requiresAction "s1", .put "pi_2" Status.succeeded "s2"]
    let r := (Registry.new 2 1000).run changes
    let refused := create Script.provider (fun _ => none) r script ⟨.finite false 10 0, " ", ""⟩
    let failed := confirm Script.provider (fun _ => none) r script ⟨"s1", "pm_card_visa"⟩
    (refused.result = .error (.invalid requiredMessage) ∧ refused.registry = r ∧
      refused.trace = .empty) ∧
    failed.result = .error (.call confirmOp (some declined)) ∧
      failed.trace.calls = [.attach "pi_1" "pm_card_visa", .confirm "pi_1" "pm_card_visa"] ∧
      r.entries.map (·.key) = ["pi_2", "pi_1"] ∧
      failed.registry.entries.map (·.key) = ["pi_1", "pi_2"] ∧
      r.Undisturbed "s1" failed.registry ∧ failed.trace.events = [] := by
  intro declined script changes r refused failed
  have hrefused : refused.result = .error (.invalid requiredMessage) := rfl
  have hfailed : failed.result = .error (.call confirmOp (some declined)) := rfl
  obtain ⟨hcreate, hconfirm⟩ :=
    failure_changes_nothing 2 1000 changes Script.provider (fun _ => none) script
  obtain ⟨hsame, -, hlocal⟩ := hcreate _ _ hrefused
  obtain ⟨hkept, hevents, -⟩ := hconfirm _ _ hfailed
  exact ⟨⟨hrefused, hsame, (hlocal rfl).2⟩, hfailed, by decide +kernel, by decide +kernel,
    by decide +kernel, hkept, hevents⟩

end Handshake
end PaymentGateway
