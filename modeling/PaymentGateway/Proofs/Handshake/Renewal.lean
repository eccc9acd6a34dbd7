/-
# A confirmation that succeeds renews one record

A confirmation writes through the general put, which may drop secrets and push out
records. It never does: the record it writes is the one it has just found, so its key is
held and its secret is indexed, and the put only replaces the entry where it is. Finding
the record has brought it to the front before, so all that the registry sees is one entry
that comes to the front, as it was or renewed (`Fronted`); the other entries, their order,
both indexes, the bounds and the clock stay.

Key definitions: `Registry.Fronted`, `Registry.settled`, `Registry.Renewed`.
Key theorems: `Registry.find_fronted`, `Registry.put_fronted`, `Handshake.confirm_fronted`,
`Handshake.confirm_renews_one`.
-/
import PaymentGateway.Proofs.Handshake.Session

namespace PaymentGateway
namespace Registry

variable {r after : Registry} {e : Entry}

/-- **An entry comes to the front**, in place of the one that was held under its key.
Nothing else changes but what the sweeper has noted. -/
structure Fronted (r : Registry) (e : Entry) (after : Registry) : Prop where
  entries : after.entries = e :: r.others e.key
  bySecret : ∀ secret, after.bySecret.get? secret = r.bySecret.get? secret
  byId : ∀ id, after.byId.get? id = r.byId.get? id
  capacity : after.capacity = r.capacity
  ttl : after.ttl = r.ttl
  now : after.now = r.now

theorem others_others (r : Registry) (id : String) :
    (r.others id).filter (fun x => x.key ≠ id) = r.others id := by
  simp [others, List.filter_filter]

namespace Fronted

/-- Of two entries of one key that come to the front, the later one stays. -/
theorem trans {middle : Registry} {x : Entry} (h : r.Fronted x middle)
    (h' : middle.Fronted e after) (hkey : e.key = x.key) : r.Fronted e after where
  entries := by
    have hothers : middle.others e.key = r.others e.key := by
      have hx : decide (x.key ≠ e.key) = false := decide_eq_false fun hne => hne hkey.symm
      rw [others, h.entries, List.filter_cons_of_neg (by simpa using hx), hkey, others_others]
    rw [h'.entries, hothers]
  bySecret secret := (h'.bySecret secret).trans (h.bySecret secret)
  byId id := (h'.byId id).trans (h.byId id)
  capacity := h'.capacity.trans h.capacity
  ttl := h'.ttl.trans h.ttl
  now := h'.now.trans h.now

theorem held? (h : r.Fronted e after) (id : String) :
    after.held? id = if id = e.key then some e else r.held? id :=
  held?_front h.entries id

theorem visible?_other (h : r.Fronted e after) {id : String} (hid : id ≠ e.key) :
    after.visible? id = r.visible? id := by
  rw [visible?, visible?, h.held?, if_neg hid]
  simp only [expired_of_bounds h.ttl h.now]

theorem others (h : r.Fronted e after) : after.others e.key = r.others e.key := by
  rw [Registry.others, h.entries, List.filter_cons_of_neg (by simp), others_others]

/-- The others of another key: the entry in front is one of them. -/
theorem others_other (h : r.Fronted e after) {id : String} (hid : e.key ≠ id) :
    after.others id = e :: (r.others e.key).filter fun x => x.key ≠ id := by
  rw [Registry.others, h.entries, List.filter_cons_of_pos (by simpa using hid)]

theorem size (h : r.Fronted e after) (hn : r.KeysNodup) {old : Entry}
    (hold : r.held? e.key = some old) : after.size = r.size :=
  size_front hn h.entries hold

end Fronted

/-! ### Finding, and putting what was found -/

/-- What is found is held under its own id, and has the secret it was found by. -/
theorem held?_of_find (hc : Coherent r.tables) {secret : String} {rec : Record}
    (h : (r.find secret).1 = some rec) :
    ∃ e, r.held? rec.id = some e ∧ e.record = rec ∧ e.key = rec.id ∧
      rec.clientSecret = secret ∧ r.bySecret.get? secret = some rec.id := by
  obtain ⟨-, id, e, hindex, hv, rfl, hsecret⟩ := find_eq_some_iff.mp h
  have hheld := (visible?_eq_some_iff.mp hv).1
  obtain ⟨hmem, hkey⟩ := (held?_eq_some_iff hc.keys).mp hheld
  have hid : e.record.id = id := (hc.own e hmem).trans hkey
  rw [hid]
  exact ⟨e, hheld, rfl, hkey, hsecret, hindex⟩

/-- **Finding a record brings its entry to the front.** -/
theorem find_fronted (hc : Coherent r.tables) {secret : String} {rec : Record}
    (h : (r.find secret).1 = some rec) (he : r.held? rec.id = some e) :
    r.Fronted e (r.find secret).2 ∧ (r.find secret).2.sweeper = r.sweeper := by
  obtain ⟨-, -, -, -, -, hpoint⟩ := held?_of_find hc h
  obtain ⟨hs, id, x, hindex, hv, -, -⟩ := find_eq_some_iff.mp h
  obtain rfl : id = rec.id := Option.some.inj (hindex.symm.trans hpoint)
  obtain rfl : x = e := Option.some.inj ((visible?_eq_some_iff.mp hv).1.symm.trans he)
  have hafter : (r.find secret).2 = r.touch x := by
    rw [find, if_neg hs, hindex, Option.bind_some, hv]
  rw [hafter]
  exact ⟨⟨rfl, fun _ => rfl, fun _ => rfl, rfl, rfl, rfl⟩, rfl⟩

/-- **A put on a key that is held, with the secret it has, brings the new entry to the
front.** -/
theorem put_fronted (hc : Coherent r.tables) {id secret : String} (hheld : r.held? id = some e)
    (hsecret : e.record.clientSecret = secret) (hindex : r.bySecret.get? secret = some id)
    (status : String) :
    r.Fronted (r.newEntry id status secret) (r.put id status secret) := by
  have hid : r.byId.get? id = some secret := by
    rw [hc.byId_eq, hheld, Option.map_some, hsecret]
  obtain ⟨hsecrets, hids⟩ := put_same_secret hc hid hindex status
  obtain ⟨hcap, httl, hnow⟩ := put_bounds r id status secret
  exact ⟨congrArg Tables.entries (put_held status secret hc hheld), hsecrets, hids, hcap, httl,
    hnow⟩

/-! ### What a confirmation leaves in front -/

/-- The entry after a reply of the provider: put again with the status of the reply, or as
it was. -/
def settled (r : Registry) (e : Entry) : Except Fault Intent → Entry
  | .ok i => r.newEntry e.key i.status e.record.clientSecret
  | .error _ => e

/-- The sweeper after a reply of the provider. -/
def settledSweeper (r : Registry) : Except Fault Intent → Sweeper
  | .ok _ => r.sweeper.note (r.now + r.ttl)
  | .error _ => r.sweeper

theorem settled_key (r : Registry) (e : Entry) (reply : Except Fault Intent) :
    (r.settled e reply).key = e.key := by
  cases reply <;> rfl

/-- **One record was renewed.** Its entry is in front, with a new status and put at this
moment; id and secret are as before. The same ids are held as before, no other entry has
changed, nor has the order of the others, and every lookup in the indexes gives the same. -/
structure Renewed (r : Registry) (e : Entry) (status : String) (after : Registry) : Prop where
  front : after.entries.head? = some
    { e with record := { e.record with status }, putAt := r.now, slot := r.sweeper.writeSlot }
  ids : ∀ id, (after.held? id).isSome = (r.held? id).isSome
  size : after.size = r.size
  others : ∀ id, id ≠ e.key → after.held? id = r.held? id
  order : after.others e.key = r.others e.key
  bySecret : ∀ secret, after.bySecret.get? secret = r.bySecret.get? secret
  byId : ∀ id, after.byId.get? id = r.byId.get? id
  clock : after.capacity = r.capacity ∧ after.ttl = r.ttl ∧ after.now = r.now

/-- An entry that comes to the front newly put is renewed. -/
theorem Fronted.renewed (hc : Coherent r.tables) (hheld : r.held? e.key = some e)
    {status : String} (h : r.Fronted (r.newEntry e.key status e.record.clientSecret) after) :
    r.Renewed e status after := by
  obtain ⟨hmem, -⟩ := (held?_eq_some_iff hc.keys).mp hheld
  have hown : e.record.id = e.key := hc.own e hmem
  have hkey : (r.newEntry e.key status e.record.clientSecret).key = e.key := rfl
  have hheld' := h.held?
  simp only [hkey] at hheld'
  refine ⟨?_, fun id => ?_, h.size hc.keys hheld, fun id hid => ?_, h.others, h.bySecret, h.byId,
    h.capacity, h.ttl, h.now⟩
  · rw [h.entries, List.head?_cons, newEntry, ← hown]
  · rw [hheld']
    by_cases hid : id = e.key
    · rw [if_pos hid, hid, hheld]
      rfl
    · rw [if_neg hid]
  · rw [hheld', if_neg hid]

end Registry

namespace Handshake

open Registry (Coherent Fronted Renewed)

variable {σ : Type} {r : Registry} {req : ConfirmRequest} {rec : Record}

/-- **All that a confirmation does to the registry** when it has found its record: one entry
comes to the front, renewed if the provider confirms. -/
theorem confirm_fronted (hc : Coherent r.tables) (p : Provider σ) (publish : Publish) (s : σ)
    (hf : (r.find req.clientSecret).1 = some rec) {e : Entry} (he : r.held? rec.id = some e) :
    let given := reply p s rec (Text.trim req.paymentMethod)
    r.Fronted (r.settled e given) (confirm p publish r s req).registry ∧
      (confirm p publish r s req).registry.sweeper = r.settledSweeper given := by
  intro given
  obtain ⟨x, hx, hrec, hkey, hsecret, hindex⟩ := Registry.held?_of_find hc hf
  obtain rfl : x = e := Option.some.inj (hx.symm.trans he)
  obtain ⟨hfront, hsweeper⟩ := Registry.find_fronted hc hf he
  rw [confirm_resolved p publish s hf]
  cases hg : given with
  | error f =>
    rw [(confirmRecord_error p publish _ s rec _ hg).2]
    exact ⟨hfront, hsweeper⟩
  | ok i =>
    have hheld : (r.find req.clientSecret).2.held? rec.id = some x := by
      rw [Registry.held?_find hc.keys, he]
    have hpoint : (r.find req.clientSecret).2.bySecret.get? rec.clientSecret = some rec.id := by
      rw [hfront.bySecret, hsecret, hindex]
    have hput := Registry.put_fronted (Registry.find_coherent hc _) hheld
      (by rw [hrec]) hpoint i.status
    have hentry : (r.find req.clientSecret).2.newEntry rec.id i.status rec.clientSecret =
        r.settled x (.ok i) := by
      rw [Registry.settled, Registry.newEntry, Registry.newEntry, hfront.now, hsweeper, hkey, hrec]
    rw [hentry] at hput
    rw [(confirmRecord_ok p publish _ s rec _ hg).2]
    refine ⟨hfront.trans hput (Registry.settled_key r x _), ?_⟩
    rw [Registry.put_sweeper, hsweeper, hfront.now, hfront.ttl]
    rfl

/-- A confirmation that succeeds has found its record, and the provider has confirmed. -/
theorem reply_of_confirm_ok {p : Provider σ} {publish : Publish} {s : σ} {c : Confirmed}
    (h : (confirm p publish r s req).result = .ok c) :
    ∃ rec i, (r.find req.clientSecret).1 = some rec ∧
      reply p s rec (Text.trim req.paymentMethod) = .ok i ∧ c.status = i.status := by
  by_cases hs : req.clientSecret = ""
  · rw [confirm_empty p publish r s hs] at h
    cases h
  cases hf : (r.find req.clientSecret).1 with
  | none =>
    rw [confirm_unresolved p publish s hs hf] at h
    cases h
  | some rec =>
    rw [confirm_resolved p publish s hf] at h
    cases hr : reply p s rec (Text.trim req.paymentMethod) with
    | error f =>
      rw [(confirmRecord_error p publish _ s rec _ hr).1] at h
      cases h
    | ok i =>
      rw [(confirmRecord_ok p publish _ s rec _ hr).1] at h
      cases h
      exact ⟨rec, i, rfl, hr, rfl⟩

/-- **A confirmation that succeeds renews one record**, in every registry that operations
lead to, with any bounds, for every provider and every request. The record is the one
found by the secret, its new status is that of the provider's reply, and its secret is the
one of the request, whatever the reply says. -/
theorem confirm_renews_one (capacity ttl : Int) (changes : List Registry.Op) (p : Provider σ)
    (publish : Publish) (s : σ) (req : ConfirmRequest) (c : Confirmed) :
    let r := (Registry.new capacity ttl).run changes
    let o := confirm p publish r s req
    o.result = .ok c →
    ∃ e i, (r.find req.clientSecret).1 = some e.record ∧ r.held? e.key = some e ∧
      e.record.id = e.key ∧ e.record.clientSecret = req.clientSecret ∧
      reply p s e.record (Text.trim req.paymentMethod) = .ok i ∧ c.status = i.status ∧
      r.Renewed e i.status o.registry := by
  intro r o hok
  have hc : Coherent r.tables := Registry.coherent_run capacity ttl changes
  obtain ⟨rec, i, hf, hi, hstatus⟩ := reply_of_confirm_ok hok
  obtain ⟨e, he, rfl, hkey, hsecret, -⟩ := Registry.held?_of_find hc hf
  obtain ⟨hfront, -⟩ := confirm_fronted hc p publish s hf he
  rw [hi] at hfront
  have hheld : r.held? e.key = some e := by rw [hkey, he]
  exact ⟨e, i, hf, hheld, hkey.symm, hsecret, hi, hstatus, hfront.renewed hc hheld⟩

/-- A full registry: the record that is confirmed was used last but one, and the other one
has expired but is still held. The provider replies with another id and another secret. -/
theorem confirm_renews_one_full :
    let changes : List Registry.Op :=
      [.advance 5, .put "pi_2" Status.succeeded "s2", .advance 4,
        .put "pi_1" Status.requiresAction "s1", .find "s2", .advance 998]
    let script : Script := ⟨.error .canceled, .ok ⟨"pi_9", "s9", Status.succeeded, none⟩, none⟩
    let r := (Registry.new 2 1000).run changes
    let o := confirm Script.provider (fun _ => none) r script ⟨"s1", ""⟩
    o.result = .ok ⟨Status.succeeded, false, "", .skipped⟩ ∧
      r.entries.map (·.key) = ["pi_2", "pi_1"] ∧ r.get? "pi_2" = none ∧
      o.registry.entries.map (·.key) = ["pi_1", "pi_2"] ∧
      ∃ e, e.record = ⟨"pi_1", Status.requiresAction, "s1"⟩ ∧ e.putAt = 9 ∧
        r.Renewed e Status.succeeded o.registry := by
  intro changes script r o
  have hok : o.result = .ok ⟨Status.succeeded, false, "", .skipped⟩ := rfl
  obtain ⟨e, i, hf, hheld, -, -, hi, -, hrenewed⟩ :=
    confirm_renews_one 2 1000 changes Script.provider (fun _ => none) script _ _ hok
  have hfound : (r.find "s1").1 = some ⟨"pi_1", Status.requiresAction, "s1"⟩ := by decide +kernel
  have hrecord : e.record = ⟨"pi_1", Status.requiresAction, "s1"⟩ :=
    Option.some.inj (hf.symm.trans hfound)
  rw [reply_script] at hi
  obtain rfl := Except.ok.inj hi
  refine ⟨hok, by decide +kernel, by decide +kernel, by decide +kernel, e, hrecord, ?_, hrenewed⟩
  have hcoherent := Registry.coherent_run 2 1000 changes
  obtain ⟨hmem, hkey⟩ := (Registry.held?_eq_some_iff hcoherent.keys).mp hheld
  have hkey' : e.key = "pi_1" := by rw [← hcoherent.own e hmem, hrecord]
  have hentry : (r.held? "pi_1").map (·.putAt) = some 9 := by decide +kernel
  rw [← hkey', hheld] at hentry
  exact Option.some.inj hentry

end Handshake
end PaymentGateway
