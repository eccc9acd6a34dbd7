/-
# A confirmation is about the intent its secret was issued with

On a registry without bounds, over a provider that opens intents with distinct
ids and distinct secrets and is otherwise free to do what it likes, the
registry knows exactly the intents opened (`Knows`, `run_knows`): their ids and
secrets are its two indexes. So a confirmation says that it found nothing
exactly if no creation returned its secret, and otherwise all it asks of the
provider and all it writes is about the one intent opened with that secret
(`run_confirmsOwn`), whatever the provider's reply says about id and secret.

The sandbox is such a provider as long as the ids it takes are distinct: they
have one length, so an id can be read back off a secret.

Key definitions: `Handshake.Knows`, `Handshake.Concerns`,
`Handshake.ConfirmsOwn`.
Key theorems: `Handshake.run_knows`, `Handshake.run_confirmsOwn`,
`Handshake.confirm_own_intent`.
-/
import PaymentGateway.Proofs.Sandbox.Session

namespace PaymentGateway

/-- The id that a call is about; a creation has none yet. -/
def Call.target? : Call → Option String
  | .create _ => none
  | .confirm id _ => some id
  | .attach id _ => some id

namespace Handshake

open Registry (Coherent)

variable {σ : Type}

/-- A registry without bounds whose indexes are the ids and secrets of the
intents. -/
structure Knows (is : List Intent) (r : Registry) : Prop where
  unbounded : r.capacity = 0
  lasting : r.ttl = 0
  byId : ∀ id secret, r.byId.get? id = some secret ↔
    ∃ i ∈ is, i.id = id ∧ i.clientSecret = secret
  bySecret : ∀ secret id, r.bySecret.get? secret = some id ↔
    ∃ i ∈ is, i.id = id ∧ i.clientSecret = secret

namespace Knows

variable {is : List Intent} {r : Registry}

theorem empty : Knows [] (Registry.new 0 0) where
  unbounded := rfl
  lasting := rfl
  byId := by simp [Registry.new, Registry.empty, Index.get?]
  bySecret := by simp [Registry.new, Registry.empty, Index.get?]

theorem not_full (hk : Knows is r) : ¬ r.Full := fun hf => hf.1 hk.unbounded

/-- Looking up changes nothing that is known. -/
theorem find (hk : Knows is r) (hc : Coherent r.tables) (secret : String) :
    Knows is (r.find secret).2 := by
  obtain ⟨es, -, ht⟩ := Registry.find_tables hc.keys secret
  obtain ⟨hcap, httl, -⟩ := Registry.find_bounds r secret
  have hs : (r.find secret).2.bySecret = r.bySecret := congrArg Registry.Tables.bySecret ht
  have hi : (r.find secret).2.byId = r.byId := congrArg Registry.Tables.byId ht
  exact ⟨hcap.trans hk.unbounded, httl.trans hk.lasting, hi ▸ hk.byId, hs ▸ hk.bySecret⟩

/-- A put for a new intent makes it known. -/
theorem put_new (hk : Knows is r) (hc : Coherent r.tables) {i : Intent}
    (hnew : ∀ j ∈ is, j.id ≠ i.id ∧ j.clientSecret ≠ i.clientSecret) (status : String) :
    Knows (is ++ [i]) (r.put i.id status i.clientSecret) := by
  have hid : r.byId.get? i.id = none := by
    refine Option.eq_none_iff_forall_ne_some.mpr fun secret h => ?_
    obtain ⟨j, hj, hji, -⟩ := (hk.byId _ _).mp h
    exact (hnew j hj).1 hji
  have hsecret : r.bySecret.get? i.clientSecret = none := by
    refine Option.eq_none_iff_forall_ne_some.mpr fun id h => ?_
    obtain ⟨j, hj, -, hjs⟩ := (hk.bySecret _ _).mp h
    exact (hnew j hj).2 hjs
  have hh : r.held? i.id = none := by
    rw [hc.byId_eq] at hid
    exact Option.map_eq_none_iff.mp hid
  have ht := Registry.put_room status i.clientSecret hc hh hk.not_full
  have hs : (r.put i.id status i.clientSecret).bySecret = r.bySecret.set i.clientSecret i.id :=
    congrArg Registry.Tables.bySecret ht
  have hi : (r.put i.id status i.clientSecret).byId = r.byId.set i.id i.clientSecret :=
    congrArg Registry.Tables.byId ht
  obtain ⟨hcap, httl, -⟩ := Registry.put_bounds r i.id status i.clientSecret
  refine ⟨hcap.trans hk.unbounded, httl.trans hk.lasting, fun id secret => ?_, fun secret id => ?_⟩
  · rw [hi, Index.get?_set_new hid, hk.byId]
    simp [or_and_right, exists_or]
  · rw [hs, Index.get?_set_new hsecret, hk.bySecret, and_comm]
    simp [or_and_right, exists_or]

/-- A put for a known intent keeps what is known. -/
theorem put_known (hk : Knows is r) (hc : Coherent r.tables) {i : Intent} (hi : i ∈ is)
    (status : String) : Knows is (r.put i.id status i.clientSecret) := by
  have hid := (hk.byId i.id i.clientSecret).mpr ⟨i, hi, rfl, rfl⟩
  have hs := (hk.bySecret i.clientSecret i.id).mpr ⟨i, hi, rfl, rfl⟩
  obtain ⟨hsecrets, hids⟩ := Registry.put_same_secret hc hid hs status
  obtain ⟨hcap, httl, -⟩ := Registry.put_bounds r i.id status i.clientSecret
  refine ⟨hcap.trans hk.unbounded, httl.trans hk.lasting, fun id secret => ?_, fun secret id => ?_⟩
  · rw [hids, hk.byId]
  · rw [hsecrets, hk.bySecret]

/-- Without a time to live what is held is visible. -/
theorem visible? (hk : Knows is r) (id : String) : r.visible? id = r.held? id :=
  Registry.visible?_lasting hk.lasting id

/-- A known intent has a record under its id, and its secret leads there. -/
theorem find_known (hk : Knows is r) (hc : Coherent r.tables) {i : Intent} (hi : i ∈ is)
    (hs : i.clientSecret ≠ "") :
    ∃ status, (r.find i.clientSecret).1 = some ⟨i.id, status, i.clientSecret⟩ ∧
      r.get? i.id = some ⟨i.id, status, i.clientSecret⟩ := by
  have hid := (hk.byId i.id i.clientSecret).mpr ⟨i, hi, rfl, rfl⟩
  have hpoint := (hk.bySecret i.clientSecret i.id).mpr ⟨i, hi, rfl, rfl⟩
  rw [hc.byId_eq] at hid
  obtain ⟨e, he, hsec⟩ := Option.map_eq_some_iff.mp hid
  obtain ⟨hmem, hkey⟩ := (Registry.held?_eq_some_iff hc.keys).mp he
  have hrec : e.record = ⟨i.id, e.record.status, i.clientSecret⟩ := by
    have hown := (hc.own e hmem).trans hkey
    obtain ⟨key, ⟨rid, st, sec⟩, t, slot⟩ := e
    simp only at hown hsec
    rw [hown, hsec]
  have hv : r.visible? i.id = some e := (hk.visible? i.id).trans he
  refine ⟨e.record.status, Registry.find_eq_some_iff.mpr ⟨hs, i.id, e, hpoint, hv, hrec, rfl⟩, ?_⟩
  rw [Registry.get?, hv, Option.map_some, hrec]

/-- What is found is the record of a known intent. -/
theorem known_of_find (hk : Knows is r) (hc : Coherent r.tables) {secret : String} {rec : Record}
    (h : (r.find secret).1 = some rec) :
    ∃ i ∈ is, i.id = rec.id ∧ i.clientSecret = secret ∧ rec.clientSecret = secret := by
  obtain ⟨-, id, e, hpoint, hv, rfl, hsec⟩ := Registry.find_eq_some_iff.mp h
  rw [hk.visible?] at hv
  obtain ⟨hmem, hkey⟩ := (Registry.held?_eq_some_iff hc.keys).mp hv
  obtain ⟨i, hi, hid, his⟩ := (hk.bySecret secret id).mp hpoint
  exact ⟨i, hi, by rw [hc.own e hmem, hkey, hid], his, hsec⟩

end Knows

/-! ### The intents of a run are known -/

/-- A confirmation opens nothing and forgets nothing. -/
theorem Knows.confirm {is : List Intent} {r : Registry} (hk : Knows is r) (hc : Coherent r.tables)
    (p : Provider σ) (publish : Publish) (s : σ) (req : ConfirmRequest) :
    Knows is (confirm p publish r s req).registry := by
  by_cases hs : req.clientSecret = ""
  · rw [confirm_empty p publish r s hs]
    exact hk
  have hfind := hk.find hc req.clientSecret
  cases hf : (r.find req.clientSecret).1 with
  | none =>
    rw [confirm_unresolved p publish s hs hf]
    exact hfind
  | some rec =>
    rcases confirm_registry p publish s hf with hr | ⟨status, hr⟩
    · rw [hr]
      exact hfind
    · obtain ⟨i, hi, hid, hsecret, hown⟩ := hk.known_of_find hc hf
      rw [hr, ← hid, hown, ← hsecret]
      rw [← hsecret] at hfind
      exact hfind.put_known (Registry.find_coherent hc _) hi status

theorem step_knows {is : List Intent} {p : Provider σ} {s : Session σ} {op : Op}
    (hk : Knows is s.registry) (hc : Coherent s.registry.tables) (hop : op.isRequest = true)
    (hf : Fresh (is ++ ((s.step p op).opened? p).toList)) :
    Knows (is ++ ((s.step p op).opened? p).toList) (s.step p op).after.registry := by
  cases op with
  | registry change => cases hop
  | confirm publish req =>
    simpa [Step.opened?, Session.step] using hk.confirm hc p publish s.remote req
  | create publish req =>
    have ho : (s.step p (.create publish req)).opened? p = opened? p s.remote req := rfl
    rw [ho] at hf ⊢
    cases h : opened? p s.remote req with
    | none =>
      have hsame := (create_none publish s.registry h).2
      simpa [Session.step, hsame] using hk
    | some i =>
      rw [h] at hf
      have hput := (create_some publish s.registry h).2
      simp only [Session.step, hput, Option.toList_some]
      exact hk.put_new hc hf.new i.status

/-- **After every run of requests the registry knows exactly the intents
opened.** -/
theorem run_knows (p : Provider σ) (remote : σ) (ops : List Op)
    (hops : ∀ op ∈ ops, op.isRequest = true)
    (hf : Fresh ((Session.mk (Registry.new 0 0) remote).opened p ops)) :
    Knows ((Session.mk (Registry.new 0 0) remote).opened p ops)
      ((Session.mk (Registry.new 0 0) remote).run p ops).registry := by
  induction ops using List.reverseRecOn with
  | nil => exact Knows.empty
  | append_singleton ops op ih =>
    rw [opened_snoc] at hf ⊢
    rw [run_snoc]
    have hold := ih (fun o ho => hops o (List.mem_append_left _ ho)) hf.left
    exact step_knows hold (run_coherent p 0 0 remote ops) (hops op (by simp)) hf

/-! ### What a confirmation is about -/

/-- The outcome of a confirmation is about one intent: so are all calls to the
provider, and beyond the lookup the registry gets at most one put, of that
intent with its own secret. No other record changes. -/
structure Concerns (i : Intent) (r : Registry) (o : Outcome σ Confirmed) : Prop where
  calls : ∀ c ∈ o.trace.calls, c.target? = some i.id
  writes : o.registry = (r.find i.clientSecret).2 ∨
    ∃ status, o.registry = (r.find i.clientSecret).2.put i.id status i.clientSecret
  own : ∃ status, o.registry.get? i.id = some ⟨i.id, status, i.clientSecret⟩
  others : ∀ id, id ≠ i.id → o.registry.get? id = r.get? id

/-- A confirmation with the secret of a known intent is about that intent. -/
theorem Knows.concerns {is : List Intent} {r : Registry} (hk : Knows is r)
    (hc : Coherent r.tables) {i : Intent} (hi : i ∈ is) (p : Provider σ) (publish : Publish)
    (s : σ) {req : ConfirmRequest} (hs : req.clientSecret ≠ "")
    (hreq : i.clientSecret = req.clientSecret) :
    Concerns i r (Handshake.confirm p publish r s req) := by
  obtain ⟨status, hf, hget⟩ := hk.find_known hc hi (hreq ▸ hs)
  rw [hreq] at hf
  have hwrites := confirm_registry p publish s hf
  rw [← hreq] at hwrites
  -- the registry has no bounds, so the put pushes nothing out
  obtain ⟨last, hafter⟩ : ∃ last, ∀ id,
      (Handshake.confirm p publish r s req).registry.get? id =
        if id = i.id then some ⟨i.id, last, i.clientSecret⟩ else r.get? id := by
    rcases hwrites with hr | ⟨last, hr⟩
    · refine ⟨status, fun id => ?_⟩
      rw [hr, Registry.get?_find hc.keys]
      split
      · rename_i hid
        rw [hid, hget]
      · rfl
    · refine ⟨last, fun id => ?_⟩
      rw [hr, Registry.get?_put (Registry.find_coherent hc _) (.inr (hk.find hc _).not_full),
        Registry.get?_find hc.keys]
  refine ⟨fun c hcall => ?_, hwrites, ⟨last, ?_⟩, fun id hid => ?_⟩
  · rw [confirm_resolved p publish s hf, confirmRecord_calls] at hcall
    rcases List.mem_append.mp hcall with hcall | hcall
    · split at hcall
      · cases hcall
      · rw [List.mem_singleton.mp hcall]
        rfl
    · rw [List.mem_singleton.mp hcall]
      rfl
  · rw [hafter, if_pos rfl]
  · rw [hafter, if_neg hid]

/-- A confirmation with a secret that is not empty, after a run that began with
the session given, finds nothing exactly if no creation of the run returned
that secret, and is otherwise about the intent opened with it. -/
def ConfirmsOwn (p : Provider σ) (start : Session σ) (ops : List Op) : Prop :=
  ∀ publish (req : ConfirmRequest), req.clientSecret ≠ "" →
    let now := start.run p ops
    let o := confirm p publish now.registry now.remote req
    (o.result = .error .notFound ↔ req.clientSecret ∉ start.issued p ops) ∧
    (req.clientSecret ∈ start.issued p ops →
      ∃ i ∈ start.opened p ops, i.clientSecret = req.clientSecret ∧ Concerns i now.registry o)

/-- A confirmation that resolves to a record does not say that it found
nothing. -/
theorem confirm_ne_notFound {r : Registry} {req : ConfirmRequest} {rec : Record} (p : Provider σ)
    (publish : Publish) (s : σ) (h : (r.find req.clientSecret).1 = some rec) :
    (confirm p publish r s req).result ≠ .error .notFound := by
  rw [confirm_resolved p publish s h]
  cases hr : reply p s rec (Text.trim req.paymentMethod) with
  | ok i => simp [(confirmRecord_ok p publish _ s rec _ hr).1]
  | error f => simp [(confirmRecord_error p publish _ s rec _ hr).1]

theorem run_confirmsOwn (p : Provider σ) (remote : σ) (ops : List Op)
    (hops : ∀ op ∈ ops, op.isRequest = true)
    (hf : Fresh ((Session.mk (Registry.new 0 0) remote).opened p ops)) :
    ConfirmsOwn p ⟨Registry.new 0 0, remote⟩ ops := by
  intro publish req hs
  have hk := run_knows p remote ops hops hf
  have hc := run_coherent p 0 0 remote ops
  simp only [issued_eq]
  refine ⟨⟨fun hnot hmem => ?_, fun hnot => ?_⟩, fun hmem => ?_⟩
  · obtain ⟨i, hi, hreq⟩ := List.mem_map.mp hmem
    obtain ⟨status, hfound, -⟩ := hk.find_known hc hi (hreq ▸ hs)
    exact confirm_ne_notFound p publish _ (hreq ▸ hfound) hnot
  · cases hfound : (((Session.mk (Registry.new 0 0) remote).run p ops).registry.find
        req.clientSecret).1 with
    | none => rw [confirm_unresolved p publish _ hs hfound]
    | some rec =>
      obtain ⟨i, hi, -, hreq, -⟩ := hk.known_of_find hc hfound
      exact absurd (List.mem_map.mpr ⟨i, hi, hreq⟩) hnot
  · obtain ⟨i, hi, hreq⟩ := List.mem_map.mp hmem
    exact ⟨i, hi, hreq, hk.concerns hc hi p publish _ hs hreq⟩

/-- **A confirmation is about the intent its secret was issued with**, over
every provider that opens intents with distinct ids and distinct secrets, and
over the sandbox if the random ids it took are distinct. -/
theorem confirm_own_intent :
    (∀ (σ : Type) (p : Provider σ) (remote : σ) (ops : List Op),
      (∀ op ∈ ops, op.isRequest = true) →
      Fresh ((Session.mk (Registry.new 0 0) remote).opened p ops) →
      ConfirmsOwn p ⟨Registry.new 0 0, remote⟩ ops) ∧
    (∀ (random : Nat → Vector UInt8 16) (ops : List Op),
      let ids := fun n => CompactId.ofRandom (random n).toList
      (∀ op ∈ ops, op.isRequest = true) →
      Sandbox.DistinctIds ids ((Sandbox.session 0 0).run (Sandbox.provider ids) ops).remote.taken →
      ConfirmsOwn (Sandbox.provider ids) (Sandbox.session 0 0) ops) := by
  refine ⟨fun σ p remote ops hops hf => run_confirmsOwn p remote ops hops hf, ?_⟩
  intro random ops ids hops hd
  have hlen : ∀ m n, (ids m).length = (ids n).length := by
    intro m n
    simp only [ids, CompactId.length_ofRandom]
  exact run_confirmsOwn _ _ ops hops (Sandbox.run_fresh hlen 0 0 ops hd)

/-- A confirmation that is answered with another intent than the one asked for,
and two creations in the sandbox. -/
theorem confirm_own_intent_misnamed :
    let purchase : Op := .create (fun _ => none) ⟨.finite false 10 0, "usd", "pm_card_visa"⟩
    let pay : Op := .confirm (fun _ => none) ⟨"pi_1_secret_2", ""⟩
    let misnamed : Script :=
      ⟨.ok ⟨"pi_1", "pi_1_secret_2", Status.requiresConfirmation, none⟩,
        .ok ⟨"pi_9", "pi_9_secret_9", Status.succeeded, none⟩, none⟩
    let ids := fun n => CompactId.ofRandom (Vector.replicate 16 (UInt8.ofNat n)).toList
    ("pi_1_secret_2" ∈
        (Session.mk (Registry.new 0 0) misnamed).issued Script.provider [purchase, pay] ∧
      ConfirmsOwn Script.provider ⟨Registry.new 0 0, misnamed⟩ [purchase, pay]) ∧
    ((Sandbox.session 0 0).run (Sandbox.provider ids) [purchase, purchase]).remote.taken = 4 ∧
      ConfirmsOwn (Sandbox.provider ids) (Sandbox.session 0 0) [purchase, purchase] := by
  intro purchase pay misnamed ids
  refine ⟨⟨by decide +kernel, ?_⟩, by decide +kernel, ?_⟩
  · exact confirm_own_intent.1 Script Script.provider misnamed [purchase, pay] (by decide)
      (by decide +kernel)
  · exact confirm_own_intent.2 (fun n => Vector.replicate 16 (UInt8.ofNat n))
      [purchase, purchase] (by decide) (by decide +kernel)

end Handshake
end PaymentGateway
