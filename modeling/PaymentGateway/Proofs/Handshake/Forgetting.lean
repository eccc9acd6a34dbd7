/-
# What is forgotten stays forgotten

A bounded registry forgets. The record used least recently is pushed out when
there is no room, and a record whose time is up is not found any more, though
it is held until it is swept and a put under its id would renew it. What is
pushed out depends on all the traffic, lookups included, and a confirmation puts
the record that it found back with a new expiry. Still, once a confirmation has
not found the record of a secret that was issued, no later one with that secret
finds it (`forgotten_stays_forgotten`).

Two facts carry this. Every record put is that of an intent which the provider
opened (`Sourced`, `run_sourced`), so if no secret is given out twice, all puts
with a secret are under one id and a record that is held and not expired is found
by its secret (`Sourced.find_live`). And where no record that is still alive has
a secret (`Registry.Gone`), only a creation that returns this very secret could
change that, for a confirmation puts back no more than it found (`step_gone`).

Key definitions: `Registry.Gone`, `Handshake.UnrepeatedSecrets`,
`Handshake.Sourced`.
Key theorems: `Handshake.Sourced.find_live`, `Handshake.step_gone`,
`Handshake.log_gone`, `Handshake.forgotten_stays_forgotten`.
-/
import PaymentGateway.Proofs.Handshake.Resolution
import PaymentGateway.Proofs.Registry.History

namespace PaymentGateway

namespace Registry

/-! ### A secret without a live record -/

/-- No record that has not expired is held with the secret. -/
def Gone (r : Registry) (secret : String) : Prop :=
  ∀ e ∈ r.entries, e.record.clientSecret = secret → r.expired e = true

/-- A put brings in its own entry, and no other. -/
theorem mem_put {r : Registry} (hc : Coherent r.tables) {id status secret : String} {e : Entry}
    (he : e ∈ (r.put id status secret).entries) :
    e = r.newEntry id status secret ∨ e ∈ r.entries := by
  obtain ⟨rest, hentries, hrest⟩ := put_entries hc id status secret
  rw [hentries, List.mem_cons] at he
  exact he.imp_right fun h => hrest h

theorem removeSlots_held (r : Registry) (slots : List Nat) :
    (r.removeSlots slots).entries ⊆ r.entries ∧ (r.removeSlots slots).now = r.now := by
  obtain ⟨hentries, hnow⟩ := forgetAll_held (r.entries.filter fun e => slots.contains e.slot)
    { r with entries := r.entries.filter fun e => !slots.contains e.slot }
  refine ⟨fun e he => ?_, hnow⟩
  exact (List.mem_filter.mp (hentries ▸ he)).1

/-- Time only goes on, and nothing comes in while it passes. -/
theorem advance_held (r : Registry) (ns : Nat) :
    (r.advance ns).entries ⊆ r.entries ∧ r.now ≤ (r.advance ns).now := by
  unfold advance
  split
  · exact ⟨fun _ h => h, Nat.le_refl _⟩
  · simp only
    split
    · exact ⟨fun _ h => h, Nat.le_add_right _ _⟩
    · obtain ⟨hentries, hnow⟩ := removeSlots_held
        { r with now := r.now + ns, sweeper := (r.sweeper.run (r.now + ns)).1 }
        (r.sweeper.run (r.now + ns)).2
      exact ⟨hentries, Nat.le_trans (Nat.le_add_right _ _) (Nat.le_of_eq hnow.symm)⟩

namespace Gone

variable {r : Registry} {secret : String}

/-- The index leads to no record with the secret that is alive. -/
theorem find_none (hg : r.Gone secret) (hc : Coherent r.tables) : (r.find secret).1 = none := by
  refine Option.eq_none_iff_forall_ne_some.mpr fun rec h => ?_
  obtain ⟨-, id, e, -, hv, rfl, hsec⟩ := find_eq_some_iff.mp h
  obtain ⟨hheld, hlive⟩ := visible?_eq_some_iff.mp hv
  have hexpired := hg e ((held?_eq_some_iff hc.keys).mp hheld).1 hsec
  rw [hexpired] at hlive
  cases hlive

theorem put (hg : r.Gone secret) (hc : Coherent r.tables) {other : String} (hne : other ≠ secret)
    (id status : String) : (r.put id status other).Gone secret := by
  intro e he hsec
  obtain ⟨-, httl, hnow⟩ := put_bounds r id status other
  rw [expired_of_bounds httl hnow]
  rcases mem_put hc he with rfl | hold
  · exact absurd hsec hne
  · exact hg e hold hsec

theorem find (hg : r.Gone secret) (hc : Coherent r.tables) (other : String) :
    (r.find other).2.Gone secret := by
  intro e he hsec
  obtain ⟨-, httl, hnow⟩ := find_bounds r other
  rw [expired_of_bounds httl hnow]
  exact hg e ((find_entries hc.keys other).mem_iff.mpr he) hsec

/-- What has expired stays expired. -/
theorem advance (hg : r.Gone secret) (ns : Nat) : (r.advance ns).Gone secret := by
  intro e he hsec
  obtain ⟨hheld, hnow⟩ := advance_held r ns
  have hold := hg e (hheld he) hsec
  have httl := (advance_bounds r ns).2
  simp only [expired, Bool.and_eq_true, decide_eq_true_eq] at hold ⊢
  rw [httl]
  exact ⟨hold.1, Nat.lt_of_lt_of_le hold.2 hnow⟩

end Gone

end Registry

namespace Handshake

open Registry (Built Coherent)

variable {σ : Type}

/-! ### The records come from the intents -/

/-- No two intents have the same secret, unless it is empty. -/
def UnrepeatedSecrets (is : List Intent) : Prop :=
  ((is.map (·.clientSecret)).filter (· ≠ "")).Nodup

instance (is : List Intent) : Decidable (UnrepeatedSecrets is) :=
  inferInstanceAs (Decidable (List.Nodup _))

theorem UnrepeatedSecrets.eq {is : List Intent} (h : UnrepeatedSecrets is) {i j : Intent}
    (hi : i ∈ is) (hj : j ∈ is) (hne : i.clientSecret ≠ "")
    (hsame : i.clientSecret = j.clientSecret) : i = j := by
  rw [UnrepeatedSecrets, List.filter_map] at h
  refine List.inj_on_of_nodup_map h ?_ ?_ hsame
  · exact List.mem_filter.mpr ⟨hi, by simpa using hne⟩
  · exact List.mem_filter.mpr ⟨hj, by simpa using hsame ▸ hne⟩

theorem UnrepeatedSecrets.new {is js : List Intent} (h : UnrepeatedSecrets (is ++ js))
    {i j : Intent} (hi : i ∈ is) (hj : j ∈ js) (hne : i.clientSecret ≠ "") :
    j.clientSecret ≠ i.clientSecret := by
  rw [UnrepeatedSecrets, List.map_append, List.filter_append, List.nodup_append] at h
  intro hsame
  refine h.2.2 i.clientSecret ?_ j.clientSecret ?_ hsame.symm
  · exact List.mem_filter.mpr ⟨List.mem_map_of_mem hi, by simpa using hne⟩
  · exact List.mem_filter.mpr ⟨List.mem_map_of_mem hj, by simpa [hsame] using hne⟩

theorem UnrepeatedSecrets.left {is js : List Intent} (h : UnrepeatedSecrets (is ++ js)) :
    UnrepeatedSecrets is := by
  rw [UnrepeatedSecrets, List.map_append, List.filter_append] at h
  exact (List.nodup_append.mp h).1

/-- Every record that was put has the id and the secret of one of the intents. -/
def Sourced (is : List Intent) (r : Registry) : Prop :=
  ∃ h, Built h r.tables ∧
    ∀ rec ∈ h, ∃ i ∈ is, i.id = rec.id ∧ i.clientSecret = rec.clientSecret

namespace Sourced

variable {is : List Intent} {r : Registry}

theorem coherent (hs : Sourced is r) : Coherent r.tables := by
  obtain ⟨h, hb, -⟩ := hs
  exact hb.coherent

theorem new (capacity ttl : Int) : Sourced [] (Registry.new capacity ttl) :=
  ⟨[], Built.empty, by simp⟩

theorem mono (hs : Sourced is r) (js : List Intent) : Sourced (is ++ js) r := by
  obtain ⟨h, hb, hsource⟩ := hs
  refine ⟨h, hb, fun rec hrec => ?_⟩
  obtain ⟨i, hi, hid, hsec⟩ := hsource rec hrec
  exact ⟨i, List.mem_append_left _ hi, hid, hsec⟩

theorem put (hs : Sourced is r) {i : Intent} (hi : i ∈ is) (status : String) :
    Sourced is (r.put i.id status i.clientSecret) := by
  obtain ⟨h, hb, hsource⟩ := hs
  exact ⟨_, Registry.put_built hb i.id status i.clientSecret,
    List.forall_mem_cons.mpr ⟨⟨i, hi, rfl, rfl⟩, hsource⟩⟩

/-- An operation that puts nothing. -/
theorem step (hs : Sourced is r) (op : Registry.Op) (hop : op.written? = none) :
    Sourced is (r.step op) := by
  obtain ⟨h, hb, hsource⟩ := hs
  have hstep := Registry.step_built hb op
  rw [hop] at hstep
  exact ⟨h, hstep, hsource⟩

/-- What is found is the record of an intent. -/
theorem of_find (hs : Sourced is r) {secret : String} {rec : Record}
    (hf : (r.find secret).1 = some rec) :
    ∃ i ∈ is, i.id = rec.id ∧ i.clientSecret = rec.clientSecret := by
  obtain ⟨h, hb, hsource⟩ := hs
  obtain ⟨-, -, hwith, -⟩ := (Registry.find_iff_last hb).mp hf
  exact hsource rec (List.mem_of_find?_eq_some hwith)

/-- **A record that is held and alive is found by its secret**, if no secret is
repeated: all puts with the secret were under one id, so the last of them is the
last under that id. -/
theorem find_live (hs : Sourced is r) (hnew : UnrepeatedSecrets is) {e : Entry}
    (he : e ∈ r.entries) (hlive : r.expired e = false) (hne : e.record.clientSecret ≠ "") :
    (r.find e.record.clientSecret).1 = some e.record := by
  obtain ⟨h, hb, hsource⟩ := hs
  have hc := hb.coherent
  have hheld : Registry.lastOn h e.key = some e.record := hb.follows.held e he
  have hown : e.record.id = e.key := hc.own e he
  have hput : e.record ∈ h := List.mem_of_find?_eq_some hheld
  obtain ⟨last, hlast⟩ : ∃ last, Registry.lastWith h e.record.clientSecret = some last :=
    Option.isSome_iff_exists.mp (List.find?_isSome.mpr ⟨e.record, hput, by simp⟩)
  have hsec : last.clientSecret = e.record.clientSecret := by simpa using List.find?_some hlast
  have hid : last.id = e.key := by
    obtain ⟨i, hi, hii, his⟩ := hsource last (List.mem_of_find?_eq_some hlast)
    obtain ⟨j, hj, hji, hjs⟩ := hsource e.record hput
    have hij : i = j := hnew.eq hi hj (by rwa [his, hsec]) (by rw [his, hjs, hsec])
    rw [← hii, hij, hji, hown]
  have hsame : last = e.record := Registry.lastWith_eq_lastOn hlast (hid ▸ hheld)
  rw [Registry.find_iff_last hb]
  refine ⟨hne, rfl, hsame ▸ hlast, hown ▸ hheld, ?_⟩
  have hvisible : r.visible? e.record.id = some e :=
    Registry.visible?_eq_some_iff.mpr
      ⟨(Registry.held?_eq_some_iff hc.keys).mpr ⟨he, hown.symm⟩, hlive⟩
  rw [Registry.get?, hvisible]
  rfl

/-- So a secret that is not found has no live record. -/
theorem gone_of_find (hs : Sourced is r) (hnew : UnrepeatedSecrets is) {secret : String}
    (hne : secret ≠ "") (hf : (r.find secret).1 = none) : r.Gone secret := by
  intro e he hsec
  subst hsec
  cases hlive : r.expired e with
  | true => rfl
  | false =>
    rw [hs.find_live hnew he hlive hne] at hf
    cases hf

end Sourced

/-! ### Steps -/

/-- An operation that puts a record into the registry without the handshake. -/
def Op.isPut : Op → Bool
  | .registry (.put ..) => true
  | _ => false

section Steps

variable {p : Provider σ} {s : Session σ} {op : Op}

theorem step_sourced {is : List Intent} (hs : Sourced is s.registry) (hop : op.isPut = false) :
    Sourced (is ++ ((s.step p op).opened? p).toList) (s.step p op).after.registry := by
  cases op with
  | create publish req =>
    have ho : (s.step p (.create publish req)).opened? p = opened? p s.remote req := rfl
    rw [ho]
    cases h : opened? p s.remote req with
    | none =>
      have hsame := (create_none publish s.registry h).2
      simp only [Session.step, hsame]
      exact hs.mono _
    | some i =>
      have hput := (create_some publish s.registry h).2
      simp only [Session.step, hput]
      exact (hs.mono _).put (List.mem_append_right _ (List.mem_singleton_self i)) i.status
  | confirm publish req =>
    have ho : (s.step p (.confirm publish req)).opened? p = none := rfl
    rw [ho, Option.toList_none, List.append_nil]
    by_cases hne : req.clientSecret = ""
    · simp only [Session.step, confirm_empty p publish _ s.remote hne]
      exact hs
    have hlooked : Sourced is (s.registry.find req.clientSecret).2 :=
      hs.step (.find req.clientSecret) rfl
    cases hf : (s.registry.find req.clientSecret).1 with
    | none =>
      simp only [Session.step, confirm_unresolved p publish s.remote hne hf]
      exact hlooked
    | some rec =>
      rcases confirm_registry p publish s.remote hf with hr | ⟨status, hr⟩
      · simp only [Session.step, hr]
        exact hlooked
      · obtain ⟨i, hi, hid, hsec⟩ := hs.of_find hf
        simp only [Session.step, hr, ← hid, ← hsec]
        exact hlooked.put hi status
  | registry change =>
    have ho : (s.step p (.registry change)).opened? p = none := rfl
    have hnone : change.written? = none := by cases change <;> first | rfl | cases hop
    rw [ho, Option.toList_none, List.append_nil]
    exact hs.step change hnone

/-- **Only a creation with the secret brings the secret back.** A confirmation
with the secret finds nothing, and one with another puts back a record with that
other secret. -/
theorem step_gone {secret : String} (hg : s.registry.Gone secret)
    (hc : Coherent s.registry.tables) (hop : op.isPut = false)
    (hnew : ∀ i, (s.step p op).opened? p = some i → i.clientSecret ≠ secret) :
    (s.step p op).after.registry.Gone secret := by
  cases op with
  | create publish req =>
    cases h : opened? p s.remote req with
    | none =>
      simp only [Session.step, (create_none publish s.registry h).2]
      exact hg
    | some i =>
      simp only [Session.step, (create_some publish s.registry h).2]
      exact hg.put hc (hnew i h) i.id i.status
  | confirm publish req =>
    by_cases hne : req.clientSecret = ""
    · simp only [Session.step, confirm_empty p publish _ s.remote hne]
      exact hg
    have hlooked := hg.find hc req.clientSecret
    cases hf : (s.registry.find req.clientSecret).1 with
    | none =>
      simp only [Session.step, confirm_unresolved p publish s.remote hne hf]
      exact hlooked
    | some rec =>
      rcases confirm_registry p publish s.remote hf with hr | ⟨status, hr⟩
      · simp only [Session.step, hr]
        exact hlooked
      · have hother : rec.clientSecret ≠ secret := by
          obtain ⟨-, -, -, -, -, -, hsec⟩ := Registry.find_eq_some_iff.mp hf
          rintro rfl
          rw [← hsec, hg.find_none hc] at hf
          cases hf
        simp only [Session.step, hr]
        exact hlooked.put (Registry.find_coherent hc _) hother rec.id status
  | registry change =>
    cases change with
    | put id status other => cases hop
    | find other => exact hg.find hc other
    | get id => exact hg
    | advance ns => exact hg.advance ns

/-- A confirmation with a secret that is gone answers so, and nothing happens. -/
theorem confirm_gone {publish : Publish} {req : ConfirmRequest}
    (hg : s.registry.Gone req.clientSecret) (hc : Coherent s.registry.tables)
    (hne : req.clientSecret ≠ "") :
    s.step p (.confirm publish req) =
      ⟨.confirm publish req, s, .confirmed (.error .notFound) .empty, s⟩ := by
  have hf := hg.find_none hc
  simp only [Session.step, confirm_unresolved p publish s.remote hne hf, Registry.find_none hc hf]

end Steps

/-! ### Runs -/

section Runs

variable {p : Provider σ}

theorem opened_append (s : Session σ) (ops more : List Op) :
    s.opened p (ops ++ more) = s.opened p ops ++ (s.run p ops).opened p more := by
  rw [Session.opened, log_append, List.filterMap_append]
  rfl

theorem opened_cons (s : Session σ) (op : Op) (ops : List Op) :
    s.opened p (op :: ops) =
      ((s.step p op).opened? p).toList ++ (s.step p op).after.opened p ops := by
  cases h : (s.step p op).opened? p <;> simp [Session.opened, Session.log, h]

/-- **After a run without direct puts every record is that of an intent opened in
it.** -/
theorem run_sourced : ∀ (ops : List Op) {is : List Intent} {s : Session σ},
    Sourced is s.registry → (∀ op ∈ ops, op.isPut = false) →
    Sourced (is ++ s.opened p ops) (s.run p ops).registry
  | [], is, s, hs, _ => by
    have hnone : s.opened p [] = [] := rfl
    rw [hnone, List.append_nil]
    exact hs
  | op :: ops, is, s, hs, hops => by
    obtain ⟨hop, hrest⟩ := List.forall_mem_cons.mp hops
    have hafter := run_sourced ops (step_sourced (p := p) hs hop) hrest
    rw [opened_cons, ← List.append_assoc]
    exact hafter

/-- **A secret that is gone stays gone along a run** which does not create it
anew. -/
theorem log_gone {secret : String} : ∀ (ops : List Op) {is : List Intent} {s : Session σ},
    Sourced is s.registry → s.registry.Gone secret → (∀ op ∈ ops, op.isPut = false) →
    (∀ i ∈ s.opened p ops, i.clientSecret ≠ secret) →
    ∀ st ∈ s.log p ops, st.before.step p st.op = st ∧
      Coherent st.before.registry.tables ∧ st.before.registry.Gone secret
  | [], _, _, _, _, _, _ => fun st hst => by cases hst
  | op :: ops, is, s, hs, hg, hops, hnew => by
    obtain ⟨hop, hrest⟩ := List.forall_mem_cons.mp hops
    rw [opened_cons] at hnew
    have hstep : ∀ i, (s.step p op).opened? p = some i → i.clientSecret ≠ secret :=
      fun i hi => hnew i (List.mem_append_left _ (by rw [hi]; exact List.mem_singleton_self i))
    have hlater := log_gone ops (step_sourced (p := p) hs hop) (step_gone hg hs.coherent hop hstep)
      hrest fun i hi => hnew i (List.mem_append_right _ hi)
    refine List.forall_mem_cons.mpr ⟨⟨?_, ?_⟩, hlater⟩
    · cases op <;> rfl
    · rw [step_before]
      exact ⟨hs.coherent, hg⟩

/-- A confirmation that answers that it found nothing had a secret, and the
registry does not find it. -/
theorem find_of_notFound {publish : Publish} {r : Registry} {s : σ} {req : ConfirmRequest}
    (h : (confirm p publish r s req).result = .error .notFound) :
    req.clientSecret ≠ "" ∧ (r.find req.clientSecret).1 = none := by
  refine ⟨fun hempty => ?_, ?_⟩
  · rw [confirm_empty p publish r s hempty] at h
    cases h
  · cases hf : (r.find req.clientSecret).1 with
    | none => rfl
    | some rec => exact absurd h (confirm_ne_notFound p publish s hf)

end Runs

/-- **What is forgotten stays forgotten**, for every capacity and time to live and
over every provider that gives out no secret twice, in every run of creations,
confirmations, lookups and waits. Once a confirmation with a secret that a
creation returned answers that no such intent is known, every later confirmation
with that secret answers the same: it leaves no trace, so it asks the provider
nothing, and the provider is as it was. -/
theorem forgotten_stays_forgotten (p : Provider σ) (capacity ttl : Int) (remote : σ)
    (ops : List Op) (hops : ∀ op ∈ ops, op.isPut = false)
    (hnew : UnrepeatedSecrets ((Session.mk (Registry.new capacity ttl) remote).opened p ops))
    (earlier later : List (Step σ)) (lost : Step σ)
    (hlog : (Session.mk (Registry.new capacity ttl) remote).log p ops =
      earlier ++ lost :: later)
    (publish : Publish) (req : ConfirmRequest) (hop : lost.op = .confirm publish req)
    (hissued : ∃ st ∈ earlier, st.issued? = some req.clientSecret)
    (hlost : ∃ trace, lost.answer = .confirmed (.error .notFound) trace) :
    ∀ st ∈ later, ∀ publish' req', st.op = .confirm publish' req' →
      req'.clientSecret = req.clientSecret →
      st.answer = .confirmed (.error .notFound) .empty ∧ st.after = st.before := by
  set start : Session σ := ⟨Registry.new capacity ttl, remote⟩
  obtain ⟨before, op, after, rfl, rfl, rfl⟩ := log_split p ops _ hlog
  obtain rfl : op = .confirm publish req := by cases op <;> exact hop
  have hlater : later = ((start.run p before).step p (.confirm publish req)).after.log p after := by
    rw [log_append, List.append_cancel_left_eq] at hlog
    exact (List.cons.inj hlog).2.symm
  have hbefore : ∀ op ∈ before, op.isPut = false := fun op h => hops op (List.mem_append_left _ h)
  have hafter : ∀ op ∈ after, op.isPut = false :=
    fun op h => hops op (List.mem_append_right _ (List.mem_cons_of_mem _ h))
  rw [opened_append] at hnew
  -- the secret is that of an intent opened before, and the registry does not find it
  obtain ⟨i, hi, hsec⟩ : ∃ i ∈ start.opened p before, i.clientSecret = req.clientSecret := by
    have hmem : req.clientSecret ∈ start.issued p before := List.mem_filterMap.mpr hissued
    rw [issued_eq] at hmem
    exact List.mem_map.mp hmem
  have hsourced : Sourced (start.opened p before) (start.run p before).registry := by
    have h := run_sourced (p := p) before (s := start) (Sourced.new capacity ttl) hbefore
    rwa [List.nil_append] at h
  obtain ⟨trace, hlost⟩ := hlost
  obtain ⟨hne, hnone⟩ := find_of_notFound (Answer.confirmed.inj hlost).1
  have hgone := hsourced.gone_of_find hnew.left hne hnone
  -- from here on no creation returns it
  have hfresh : ∀ j ∈ (start.run p before).opened p (.confirm publish req :: after),
      j.clientSecret ≠ req.clientSecret :=
    fun j hj => hsec ▸ hnew.new hi hj (hsec ▸ hne)
  have hstays := log_gone (.confirm publish req :: after) hsourced hgone
    (List.forall_mem_cons.mpr ⟨rfl, hafter⟩) hfresh
  intro st hst publish' req' hop' hsame
  obtain ⟨hstep, hc, hg⟩ := hstays st (List.mem_cons_of_mem _ (hlater ▸ hst))
  rw [hop', confirm_gone (hsame ▸ hg) hc (hsame ▸ hne)] at hstep
  rw [← hstep]
  exact ⟨rfl, rfl⟩

/-- A record that is kept for a microsecond and confirmed in time, so that it is
kept for another. When that is over it is not found, though it is still held
beside a record that was put right after it; and it is not found after another
purchase has pushed it out. -/
theorem forgotten_stays_forgotten_renewed :
    let p := Sandbox.provider fun n => Digits.text n
    let quiet : Publish := fun _ => none
    let purchase : Op := .create quiet ⟨.finite false 10 0, "usd", "pm_card_visa"⟩
    let pay : Op := .confirm quiet ⟨"pi_1_secret_2", ""⟩
    let start : Session Sandbox := ⟨Registry.new 2 1000, Sandbox.empty⟩
    let before : List Op :=
      [purchase, .registry (.advance 900), pay, .registry (.advance 5), purchase,
        .registry (.advance 998)]
    let lost := (start.run p before).step p pay
    let again := (lost.after.run p [purchase]).step p pay
    (start.log p before).map (·.returned?) =
        [none, none, some Status.succeeded, none, none, none] ∧
      lost.before.registry.size = 2 ∧ lost.answer = .confirmed (.error .notFound) .empty ∧
      again.answer = .confirmed (.error .notFound) .empty := by
  intro p quiet purchase pay start before lost again
  have hfind : ((start.run p before).registry.find "pi_1_secret_2").1 = none := by decide +kernel
  have hne : (⟨"pi_1_secret_2", ""⟩ : ConfirmRequest).clientSecret ≠ "" := by decide
  have hconfirm := confirm_unresolved p quiet (start.run p before).remote hne hfind
  have hlost : lost.answer = .confirmed (.error .notFound) .empty := by
    simp only [lost, pay, Session.step, hconfirm]
  have hissued : "pi_1_secret_2" ∈ start.issued p before := by decide +kernel
  have hnew : UnrepeatedSecrets (start.opened p (before ++ [pay, purchase, pay])) := by
    decide +kernel
  have hagain := forgotten_stays_forgotten p 2 1000 Sandbox.empty (before ++ [pay, purchase, pay])
    (by decide) hnew (start.log p before) (lost.after.log p [purchase, pay]) lost
    (log_append p start before [pay, purchase, pay]) quiet ⟨"pi_1_secret_2", ""⟩ rfl
    (List.mem_filterMap.mp hissued) ⟨_, hlost⟩ again
    (List.mem_cons_of_mem _ (List.mem_singleton_self _)) quiet ⟨"pi_1_secret_2", ""⟩ rfl rfl
  exact ⟨by decide +kernel, by decide +kernel, hlost, hagain.1⟩

end Handshake
end PaymentGateway
