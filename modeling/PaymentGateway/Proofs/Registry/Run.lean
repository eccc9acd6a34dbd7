/-
# Runs of a registry

An operation on a registry puts a record, finds one by its secret, looks one up
by its id or lets time pass; evictions and sweeps happen inside these. A run is
a list of operations. What each operation does to the tables is said once
(`put_held`, `put_room`, `put_full`, `find_tables`, `advance_tables`): it is a
sequence of the three changes of `Built`, so the tables of every run are built
from the records it put (`run_built`), and they are coherent.

Key definitions: `Registry.Op`, `Registry.step`, `Registry.run`,
`Registry.written`.
Key theorems: `Registry.step_built`, `Registry.run_built`,
`Registry.run_indexes_exact`.
-/
import PaymentGateway.Proofs.Registry.Tables

namespace PaymentGateway
namespace Registry

/-! ### The entries held -/

/-- No key is held twice. -/
abbrev KeysNodup (r : Registry) : Prop := (r.entries.map (·.key)).Nodup

theorem held?_eq_some_iff {r : Registry} (hn : r.KeysNodup) {id : String} {e : Entry} :
    r.held? id = some e ↔ e ∈ r.entries ∧ e.key = id := by
  constructor
  · intro h
    exact ⟨List.mem_of_find?_eq_some h, by simpa using List.find?_some h⟩
  · rintro ⟨he, rfl⟩
    have hsome : (r.held? e.key).isSome := by
      rw [held?, List.find?_isSome]
      exact ⟨e, he, by simp⟩
    obtain ⟨x, hx⟩ := Option.isSome_iff_exists.mp hsome
    have hxk : x.key = e.key := by simpa using List.find?_some hx
    rw [hx, List.inj_on_of_nodup_map hn (List.mem_of_find?_eq_some hx) he hxk]

theorem held?_eq_none_iff {r : Registry} {id : String} :
    r.held? id = none ↔ id ∉ r.entries.map (·.key) := by
  rw [held?, List.find?_eq_none]
  simp

/-- The id index is the secrets of the entries held. -/
theorem Coherent.byId_eq {r : Registry} (h : Coherent r.tables) (id : String) :
    r.byId.get? id = (r.held? id).map (·.record.clientSecret) := by
  cases hh : r.held? id with
  | none =>
    rw [Option.map_none, Option.eq_none_iff_forall_ne_some]
    intro secret hs
    obtain ⟨e, he, hk, -⟩ := (h.byId id secret).mp hs
    exact held?_eq_none_iff.mp hh (List.mem_map.mpr ⟨e, he, hk⟩)
  | some e =>
    obtain ⟨he, rfl⟩ := (held?_eq_some_iff h.keys).mp hh
    exact h.byId_of_mem he

theorem visible?_eq_some_iff {r : Registry} {id : String} {e : Entry} :
    r.visible? id = some e ↔ r.held? id = some e ∧ r.expired e = false := by
  simp [visible?, Option.filter_eq_some_iff]

/-- An entry and the others are all the entries, up to order. -/
theorem perm_others : ∀ {es : List Entry} {e : Entry}, (es.map (·.key)).Nodup → e ∈ es →
    es.Perm (e :: es.filter fun x => x.key ≠ e.key)
  | [], _, _, he => by simp at he
  | a :: es, e, hn, he => by
    obtain ⟨ha, hn⟩ := List.nodup_cons.mp hn
    rcases List.mem_cons.mp he with rfl | he
    · have hall : es.filter (fun x => x.key ≠ e.key) = es := by
        rw [List.filter_eq_self]
        intro x hx
        simpa using fun hk => ha (List.mem_map.mpr ⟨x, hx, hk⟩)
      have hcons : (e :: es).filter (fun x => x.key ≠ e.key) =
          es.filter fun x => x.key ≠ e.key := by simp
      rw [hcons, hall]
    · have hne : a.key ≠ e.key := fun hk => ha (List.mem_map.mpr ⟨e, he, hk.symm⟩)
      have hcons : (a :: es).filter (fun x => x.key ≠ e.key) =
          a :: es.filter fun x => x.key ≠ e.key := by simp [hne]
      rw [hcons]
      exact ((perm_others hn he).cons a).trans (List.Perm.swap _ _ _)

/-! ### A put -/

/-- The entry that a put writes. -/
def newEntry (r : Registry) (id status secret : String) : Entry :=
  ⟨id, ⟨id, status, secret⟩, r.now, r.sweeper.writeSlot⟩

/-- The registry has no room for another key. -/
def Full (r : Registry) : Prop := r.capacity ≠ 0 ∧ r.capacity ≤ r.entries.length

section Put

variable {r : Registry} {id : String} (status secret : String)

/-- A put on a key that is held replaces its entry, and nothing leaves. -/
theorem put_held (hc : Coherent r.tables) {e : Entry} (hh : r.held? id = some e) :
    (r.put id status secret).tables =
      ⟨r.newEntry id status secret :: r.others id,
        (r.bySecret.eraseIf e.record.clientSecret e.key).set secret id,
        (r.byId.eraseIf e.key e.record.clientSecret).set id secret⟩ := by
  obtain ⟨-, hk⟩ := (held?_eq_some_iff hc.keys).mp hh
  have hold : r.byId.get? id = some e.record.clientSecret := by
    rw [hc.byId_eq, hh]
    rfl
  rw [hk, Index.set_eraseIf]
  by_cases hs : e.record.clientSecret = secret
  · have hdrop : r.dropOldSecret id secret = r := by simp [dropOldSecret, hold, hs]
    rw [put, hdrop, place, hh, hs, Index.set_eraseIf]
    rfl
  · have hdrop : r.dropOldSecret id secret =
        { r with bySecret := r.bySecret.eraseIf e.record.clientSecret id } := by
      simp [dropOldSecret, hold, hs]
    have hheld : held? { r with bySecret := r.bySecret.eraseIf e.record.clientSecret id } id =
        some e := hh
    rw [put, hdrop, place, hheld]
    rfl

theorem dropOldSecret_of_new (hc : Coherent r.tables) (hh : r.held? id = none) :
    r.dropOldSecret id secret = r := by
  have hold : r.byId.get? id = none := by
    rw [hc.byId_eq, hh]
    rfl
  simp [dropOldSecret, hold]

/-- A put on a new key, with room for it. -/
theorem put_room (hc : Coherent r.tables) (hh : r.held? id = none) (hf : ¬ r.Full) :
    (r.put id status secret).tables =
      ⟨r.newEntry id status secret :: r.entries, r.bySecret.set secret id,
        r.byId.set id secret⟩ := by
  have hroom : ¬ (r.capacity ≠ 0 ∧ r.capacity < r.entries.length + 1) := fun h =>
    hf ⟨h.1, Nat.le_of_lt_succ h.2⟩
  rw [put, dropOldSecret_of_new secret hc hh, place, hh]
  simp only [List.length_cons, hroom, ↓reduceIte]
  rfl

/-- A put on a new key without room for it: the last entry leaves. -/
theorem put_full (hc : Coherent r.tables) (hh : r.held? id = none) (hf : r.Full) :
    ∃ init last, r.entries = init ++ [last] ∧
      (r.put id status secret).tables =
        ⟨r.newEntry id status secret :: init,
          (r.bySecret.eraseIf last.record.clientSecret last.key).set secret id,
          (r.byId.eraseIf last.key last.record.clientSecret).set id secret⟩ := by
  have hne : r.entries ≠ [] := by
    intro h0
    have hcap := hf.2
    rw [h0] at hcap
    exact hf.1 (Nat.le_zero.mp hcap)
  obtain ⟨init, last, hsplit⟩ : ∃ init last, r.entries = init ++ [last] :=
    ⟨_, _, (List.dropLast_append_getLast hne).symm⟩
  have hroom : r.capacity ≠ 0 ∧ r.capacity < r.entries.length + 1 :=
    ⟨hf.1, Nat.lt_succ_of_le hf.2⟩
  have hlast : ∀ x : Entry, (x :: r.entries).getLast? = some last := by
    intro x
    rw [hsplit, ← List.cons_append, List.getLast?_append]
    rfl
  have hinit : ∀ x : Entry, (x :: r.entries).dropLast = x :: init := by
    intro x
    rw [hsplit, ← List.cons_append, List.dropLast_concat]
  refine ⟨init, last, hsplit, ?_⟩
  rw [put, dropOldSecret_of_new secret hc hh, place, hh]
  simp only [List.length_cons, hroom, ↓reduceIte, hlast, hinit, ne_eq, not_false_eq_true, and_self]
  rfl

end Put

/-- **A put builds.** The old entry of the key leaves, or the last entry where
there is no room, and the new entry comes in. -/
theorem put_built {h : List Record} {r : Registry} (hb : Built h r.tables)
    (id status secret : String) :
    Built (⟨id, status, secret⟩ :: h) (r.put id status secret).tables := by
  have hc := hb.coherent
  cases hh : r.held? id with
  | some e =>
    obtain ⟨he, hk⟩ := (held?_eq_some_iff hc.keys).mp hh
    have hsplit : r.entries.Perm (e :: r.others id) := hk ▸ perm_others hc.keys he
    rw [put_held status secret hc hh]
    refine Built.add (e := r.newEntry id status secret) ?_ rfl (hb.reorder hsplit).drop
    simp [newEntry, others]
  | none =>
    have hnew := held?_eq_none_iff.mp hh
    by_cases hf : r.Full
    · obtain ⟨init, last, hsplit, ht⟩ := put_full status secret hc hh hf
      have hperm : r.entries.Perm (last :: init) := hsplit ▸ List.perm_append_singleton _ _
      rw [ht]
      refine Built.add (e := r.newEntry id status secret) ?_ rfl (hb.reorder hperm).drop
      rw [hsplit, List.map_append, List.mem_append] at hnew
      exact fun hi => hnew (Or.inl hi)
    · rw [put_room status secret hc hh hf]
      exact Built.add (e := r.newEntry id status secret) hnew rfl hb

/-! ### Finding, and letting time pass -/

theorem find_eq_some_iff {r : Registry} {secret : String} {rec : Record} :
    (r.find secret).1 = some rec ↔ secret ≠ "" ∧ ∃ id e, r.bySecret.get? secret = some id ∧
      r.visible? id = some e ∧ e.record = rec ∧ rec.clientSecret = secret := by
  unfold find
  split
  · rename_i hs
    simp [hs]
  · rename_i hs
    split
    · rename_i hnone
      simp only [reduceCtorEq, false_iff, not_and, not_exists]
      intro _ id e hid hv
      rw [hid] at hnone
      simp [hv] at hnone
    · rename_i e he
      obtain ⟨id, hid, hv⟩ := Option.bind_eq_some_iff.mp he
      constructor
      · intro h
        split at h
        · rename_i hsec
          cases h
          exact ⟨hs, id, e, hid, hv, rfl, hsec⟩
        · cases h
      · rintro ⟨-, id', e', hid', hv', rfl, hsec⟩
        rw [hid] at hid'
        cases hid'
        rw [hv] at hv'
        cases hv'
        simp [hsec]

/-- Finding reorders the entries and leaves the indexes alone. -/
theorem find_tables {r : Registry} (hn : r.KeysNodup) (secret : String) :
    ∃ es, r.entries.Perm es ∧ (r.find secret).2.tables = ⟨es, r.bySecret, r.byId⟩ := by
  unfold find
  split
  · exact ⟨_, List.Perm.refl _, rfl⟩
  · split
    · exact ⟨_, List.Perm.refl _, rfl⟩
    · rename_i e he
      obtain ⟨id, -, hv⟩ := Option.bind_eq_some_iff.mp he
      have hmem := ((held?_eq_some_iff hn).mp (visible?_eq_some_iff.mp hv).1).1
      exact ⟨_, perm_others hn hmem, rfl⟩

theorem find_coherent {r : Registry} (hc : Coherent r.tables) (secret : String) :
    Coherent (r.find secret).2.tables := by
  obtain ⟨es, hp, ht⟩ := find_tables hc.keys secret
  rw [ht]
  exact Coherent.reorder hc hp

/-- Finding nothing changes nothing: the secret index leads to records with
that very secret. -/
theorem find_none {r : Registry} (hc : Coherent r.tables) {secret : String}
    (h : (r.find secret).1 = none) : (r.find secret).2 = r := by
  unfold find at h ⊢
  split
  · rfl
  · rename_i hs
    rw [if_neg hs] at h
    split
    · rfl
    · rename_i e he
      obtain ⟨id, hid, hv⟩ := Option.bind_eq_some_iff.mp he
      obtain ⟨hmem, hk⟩ := (held?_eq_some_iff hc.keys).mp (visible?_eq_some_iff.mp hv).1
      have hown : e.record.clientSecret = secret := by
        have hheld := hc.byId_of_mem hmem
        rw [hk, hc.bySecret _ _ hid] at hheld
        exact (Option.some.inj hheld).symm
      simp [he, hown] at h

/-- Finding a record moves its entry to the front, and does nothing else. -/
theorem find_some {r : Registry} (hn : r.KeysNodup) {secret : String} {rec : Record}
    (h : (r.find secret).1 = some rec) :
    ∃ before e after, e.record = rec ∧ r.entries = before ++ e :: after ∧
      (r.find secret).2 = { r with entries := e :: (before ++ after) } := by
  obtain ⟨hs, id, e, hid, hv, hrec, -⟩ := find_eq_some_iff.mp h
  have hmem := ((held?_eq_some_iff hn).mp (visible?_eq_some_iff.mp hv).1).1
  obtain ⟨before, after, hsplit⟩ := List.append_of_mem hmem
  have hothers : r.others e.key = before ++ after := by
    rw [KeysNodup, hsplit, List.map_append, List.map_cons, List.nodup_middle,
      List.nodup_cons, ← List.map_append] at hn
    have hcons : (e :: after).filter (fun x => x.key ≠ e.key) =
        after.filter fun x => x.key ≠ e.key := by simp
    rw [others, hsplit, List.filter_append, hcons, ← List.filter_append, List.filter_eq_self]
    intro x hx
    simpa using fun hk => hn.1 (List.mem_map.mpr ⟨x, hx, hk⟩)
  have hfound : (r.bySecret.get? secret).bind r.visible? = some e :=
    Option.bind_eq_some_iff.mpr ⟨id, hid, hv⟩
  refine ⟨before, e, after, hrec, hsplit, ?_⟩
  rw [find, if_neg hs, hfound, ← hothers]
  rfl

/-- Entries that were taken out leave one after the other. -/
theorem forgetAll_built {h : List Record} : ∀ (gone : List Entry) (r : Registry),
    Built h ⟨gone ++ r.entries, r.bySecret, r.byId⟩ → Built h (forgetAll r gone).tables
  | [], _, hb => hb
  | e :: gone, r, hb => forgetAll_built gone (r.forget e) hb.drop

theorem removeSlots_built {h : List Record} {r : Registry} (hb : Built h r.tables)
    (slots : List Nat) : Built h (r.removeSlots slots).tables :=
  forgetAll_built _ _
    (hb.reorder (List.filter_append_perm (fun e : Entry => slots.contains e.slot) _).symm)

theorem advance_built {h : List Record} {r : Registry} (hb : Built h r.tables) (ns : Nat) :
    Built h (r.advance ns).tables := by
  unfold advance
  split
  · exact hb
  · split
    · exact hb
    · exact removeSlots_built (r := { r with now := r.now + ns, sweeper := _ }) hb _

/-! ### Records through a put and a lookup -/

theorem expired_of_bounds {r r' : Registry} (ht : r'.ttl = r.ttl) (hn : r'.now = r.now)
    (e : Entry) : r'.expired e = r.expired e := by
  rw [expired, expired, ht, hn]

theorem place_bounds (r : Registry) (key : String) (rec : Record) :
    (r.place key rec).capacity = r.capacity ∧ (r.place key rec).ttl = r.ttl ∧
      (r.place key rec).now = r.now := by
  unfold place
  split
  · exact ⟨rfl, rfl, rfl⟩
  · simp only
    split
    · split <;> exact ⟨rfl, rfl, rfl⟩
    · exact ⟨rfl, rfl, rfl⟩

theorem dropOldSecret_bounds (r : Registry) (id secret : String) :
    (r.dropOldSecret id secret).capacity = r.capacity ∧
      (r.dropOldSecret id secret).ttl = r.ttl ∧ (r.dropOldSecret id secret).now = r.now := by
  unfold dropOldSecret
  split
  · split <;> exact ⟨rfl, rfl, rfl⟩
  · exact ⟨rfl, rfl, rfl⟩

/-- A put changes neither the bounds nor the clock. -/
theorem put_bounds (r : Registry) (id status secret : String) :
    (r.put id status secret).capacity = r.capacity ∧ (r.put id status secret).ttl = r.ttl ∧
      (r.put id status secret).now = r.now := by
  obtain ⟨hcap, httl, hnow⟩ := dropOldSecret_bounds r id secret
  obtain ⟨hc, ht, hn⟩ := place_bounds (r.dropOldSecret id secret) id ⟨id, status, secret⟩
  exact ⟨hc.trans hcap, ht.trans httl, hn.trans hnow⟩

theorem dropOldSecret_sweeper (r : Registry) (id secret : String) :
    (r.dropOldSecret id secret).sweeper = r.sweeper := by
  unfold dropOldSecret
  split
  · split <;> rfl
  · rfl

theorem place_sweeper (r : Registry) (key : String) (rec : Record) :
    (r.place key rec).sweeper = r.sweeper := by
  unfold place
  split
  · rfl
  · simp only
    split
    · split <;> rfl
    · rfl

/-- The sweeper notes a put when it is made. -/
theorem put_sweeper (r : Registry) (id status secret : String) :
    (r.put id status secret).sweeper = r.sweeper.note (r.now + r.ttl) := by
  obtain ⟨-, httl, hnow⟩ := dropOldSecret_bounds r id secret
  obtain ⟨-, hplaced, hplaced'⟩ :=
    place_bounds (r.dropOldSecret id secret) id ⟨id, status, secret⟩
  show ((r.dropOldSecret id secret).place id ⟨id, status, secret⟩).sweeper.note _ = _
  rw [place_sweeper, dropOldSecret_sweeper, hplaced', hplaced, hnow, httl]

theorem find_sweeper (r : Registry) (secret : String) : (r.find secret).2.sweeper = r.sweeper := by
  unfold find
  split
  · rfl
  · split <;> rfl

theorem find_bounds (r : Registry) (secret : String) :
    (r.find secret).2.capacity = r.capacity ∧ (r.find secret).2.ttl = r.ttl ∧
      (r.find secret).2.now = r.now := by
  unfold find
  split
  · exact ⟨rfl, rfl, rfl⟩
  · split <;> exact ⟨rfl, rfl, rfl⟩

/-- The order of the entries does not matter for what is held. -/
theorem held?_perm {r r' : Registry} (hn : r.KeysNodup) (hp : r.entries.Perm r'.entries)
    (id : String) : r'.held? id = r.held? id := by
  have hn' : r'.KeysNodup := (hp.map _).nodup_iff.mp hn
  ext e
  rw [held?_eq_some_iff hn', held?_eq_some_iff hn, hp.mem_iff]

theorem find_entries {r : Registry} (hn : r.KeysNodup) (secret : String) :
    r.entries.Perm (r.find secret).2.entries := by
  obtain ⟨es, hp, ht⟩ := find_tables hn secret
  have hentries : (r.find secret).2.entries = es := congrArg Tables.entries ht
  rwa [hentries]

/-- Finding a record changes no entry. -/
theorem held?_find {r : Registry} (hn : r.KeysNodup) (secret id : String) :
    (r.find secret).2.held? id = r.held? id :=
  held?_perm hn (find_entries hn secret) id

theorem size_find {r : Registry} (hn : r.KeysNodup) (secret : String) :
    (r.find secret).2.size = r.size :=
  (find_entries hn secret).length_eq.symm

/-- Finding a record changes no record. -/
theorem get?_find {r : Registry} (hn : r.KeysNodup) (secret id : String) :
    (r.find secret).2.get? id = r.get? id := by
  obtain ⟨-, httl, hnow⟩ := find_bounds r secret
  rw [get?, get?, visible?, visible?, held?_find hn]
  simp only [expired_of_bounds httl hnow]

/-- What is found is the record of its own id. -/
theorem get?_of_find {r : Registry} (hc : Coherent r.tables) {secret : String} {rec : Record}
    (h : (r.find secret).1 = some rec) : r.get? rec.id = some rec := by
  obtain ⟨-, id, e, -, hv, rfl, -⟩ := find_eq_some_iff.mp h
  obtain ⟨hmem, rfl⟩ := (held?_eq_some_iff hc.keys).mp (visible?_eq_some_iff.mp hv).1
  rw [hc.own e hmem, get?, hv]
  rfl

/-- Records are under their own ids. -/
theorem id_of_get? {r : Registry} (hc : Coherent r.tables) {id : String} {rec : Record}
    (h : r.get? id = some rec) : rec.id = id := by
  obtain ⟨e, hv, rfl⟩ := Option.map_eq_some_iff.mp h
  obtain ⟨hmem, hk⟩ := (held?_eq_some_iff hc.keys).mp (visible?_eq_some_iff.mp hv).1
  exact (hc.own e hmem).trans hk

theorem held?_isSome_of_get? {r : Registry} {id : String} {rec : Record}
    (h : r.get? id = some rec) : (r.held? id).isSome := by
  obtain ⟨e, hv, -⟩ := Option.map_eq_some_iff.mp h
  rw [(visible?_eq_some_iff.mp hv).1]
  rfl

/-- Without a time to live what is held is visible. -/
theorem visible?_lasting {r : Registry} (h : r.ttl = 0) (id : String) :
    r.visible? id = r.held? id := by
  have hlive : ∀ e, r.expired e = false := by
    intro e
    simp [expired, h]
  cases hh : r.held? id <;> simp [visible?, hh, hlive]

/-- A put brings its own entry to the front, and no other entry in. -/
theorem put_entries {r : Registry} (hc : Coherent r.tables) (id status secret : String) :
    ∃ rest, (r.put id status secret).entries = r.newEntry id status secret :: rest ∧
      rest ⊆ r.entries := by
  cases hh : r.held? id with
  | some old =>
    exact ⟨_, congrArg Tables.entries (put_held status secret hc hh), List.filter_subset_self _⟩
  | none =>
    by_cases hf : r.Full
    · obtain ⟨init, last, hsplit, ht⟩ := put_full status secret hc hh hf
      refine ⟨init, congrArg Tables.entries ht, ?_⟩
      rw [hsplit]
      exact List.subset_append_left init [last]
    · exact ⟨_, congrArg Tables.entries (put_room status secret hc hh hf), List.Subset.refl _⟩

theorem newEntry_live (r : Registry) (id status secret : String) :
    r.expired (r.newEntry id status secret) = false := by
  have hlate : ¬ r.now + r.ttl < r.now := by omega
  simp [expired, newEntry, hlate]

/-- With an entry in front of the others, its key leads to it and every other key to what it
led to. -/
theorem held?_front {r after : Registry} {e : Entry}
    (h : after.entries = e :: r.others e.key) (id : String) :
    after.held? id = if id = e.key then some e else r.held? id := by
  rw [held?, h]
  by_cases hid : id = e.key
  · rw [if_pos hid, List.find?_cons_of_pos (by simp [hid])]
  · have hne : ¬ e.key = id := fun he => hid he.symm
    rw [if_neg hid, List.find?_cons_of_neg (by simpa using hne), held?, others, List.find?_filter]
    congr 1
    funext x
    by_cases hx : x.key = id
    · simp [hx, hid]
    · simp [hx]

/-- With an entry in front of the others of a key that is held, as many entries are held. -/
theorem size_front {r after : Registry} {e old : Entry} (hn : r.KeysNodup)
    (h : after.entries = e :: r.others e.key) (hold : r.held? e.key = some old) :
    after.size = r.size := by
  obtain ⟨hmem, hkey⟩ := (held?_eq_some_iff hn).mp hold
  have hsplit : r.entries.Perm (old :: r.others e.key) := hkey ▸ perm_others hn hmem
  rw [size, size, h, hsplit.length_eq]
  rfl

/-- A put that pushes nothing out changes the entry of its own key only. -/
theorem held?_put {r : Registry} (hc : Coherent r.tables) {id : String}
    (hroom : (r.held? id).isSome ∨ ¬ r.Full) (status secret other : String) :
    (r.put id status secret).held? other =
      if other = id then some (r.newEntry id status secret) else r.held? other := by
  have hentries : (r.put id status secret).entries =
      r.newEntry id status secret :: r.others id := by
    cases hh : r.held? id with
    | some e => exact congrArg Tables.entries (put_held status secret hc hh)
    | none =>
      have hf : ¬ r.Full := by simpa [hh] using hroom
      have hall : r.others id = r.entries := by
        rw [others, List.filter_eq_self]
        intro e he
        simpa using fun hk => held?_eq_none_iff.mp hh (List.mem_map.mpr ⟨e, he, hk⟩)
      rw [hall]
      exact congrArg Tables.entries (put_room status secret hc hh hf)
  exact held?_front hentries other

/-- A put on a key that is held adds nothing. -/
theorem size_put_held {r : Registry} (hc : Coherent r.tables) {id : String}
    (hh : (r.held? id).isSome) (status secret : String) :
    (r.put id status secret).size = r.size := by
  obtain ⟨e, he⟩ := Option.isSome_iff_exists.mp hh
  have hentries : (r.put id status secret).entries =
      r.newEntry id status secret :: r.others id :=
    congrArg Tables.entries (put_held status secret hc he)
  exact size_front hc.keys hentries he

/-- A put on a new key adds one record, if there is room. -/
theorem size_put_new {r : Registry} (hc : Coherent r.tables) {id : String}
    (hh : r.held? id = none) (hf : ¬ r.Full) (status secret : String) :
    (r.put id status secret).size = r.size + 1 :=
  congrArg (fun t : Tables => t.entries.length) (put_room status secret hc hh hf)

/-- A put that pushes nothing out changes the record of its own id only. -/
theorem get?_put {r : Registry} (hc : Coherent r.tables) {id : String}
    (hroom : (r.held? id).isSome ∨ ¬ r.Full) (status secret other : String) :
    (r.put id status secret).get? other =
      if other = id then some ⟨id, status, secret⟩ else r.get? other := by
  obtain ⟨-, httl, hnow⟩ := put_bounds r id status secret
  rw [get?, visible?, held?_put hc hroom]
  simp only [expired_of_bounds httl hnow]
  by_cases ho : other = id
  · simp only [ho, ↓reduceIte, Option.filter_some, newEntry_live, Bool.not_false, Option.map_some]
    rfl
  · simp [ho, get?, visible?]

/-- A record that was just put is found by its secret, whatever it pushed out. -/
theorem find_put {r : Registry} (hc : Coherent r.tables) (id status : String) {secret : String}
    (hs : secret ≠ "") :
    ((r.put id status secret).find secret).1 = some ⟨id, status, secret⟩ := by
  have hindex : (r.put id status secret).bySecret.get? secret = some id := by
    rw [put, Index.get?_set, if_pos rfl]
  obtain ⟨rest, hentries, -⟩ := put_entries hc id status secret
  have hheld : (r.put id status secret).held? id = some (r.newEntry id status secret) := by
    rw [held?, hentries]
    exact List.find?_cons_of_pos (decide_eq_true rfl)
  obtain ⟨-, httl, hnow⟩ := put_bounds r id status secret
  have hlive : (r.put id status secret).expired (r.newEntry id status secret) = false := by
    rw [expired_of_bounds httl hnow, newEntry_live]
  exact find_eq_some_iff.mpr
    ⟨hs, id, _, hindex, visible?_eq_some_iff.mpr ⟨hheld, hlive⟩, rfl, rfl⟩

/-- A put that keeps the secret of a record changes no lookup in the indexes. -/
theorem put_same_secret {r : Registry} (hc : Coherent r.tables) {id secret : String}
    (hid : r.byId.get? id = some secret) (hs : r.bySecret.get? secret = some id)
    (status : String) :
    (∀ k, (r.put id status secret).bySecret.get? k = r.bySecret.get? k) ∧
      ∀ k, (r.put id status secret).byId.get? k = r.byId.get? k := by
  obtain ⟨e, hh, hsec⟩ : ∃ e, r.held? id = some e ∧ e.record.clientSecret = secret := by
    rw [hc.byId_eq] at hid
    exact Option.map_eq_some_iff.mp hid
  obtain ⟨-, hk⟩ := (held?_eq_some_iff hc.keys).mp hh
  have ht := put_held status secret hc hh
  rw [hsec, hk, Index.set_eraseIf, Index.set_eraseIf] at ht
  have hb : (r.put id status secret).bySecret = r.bySecret.set secret id :=
    congrArg Tables.bySecret ht
  have hi : (r.put id status secret).byId = r.byId.set id secret := congrArg Tables.byId ht
  constructor <;> intro k
  · rw [hb, Index.get?_set]
    by_cases h : k = secret <;> simp [h, hs]
  · rw [hi, Index.get?_set]
    by_cases h : k = id <;> simp [h, hid]

/-! ### Runs -/

/-- An operation on a registry. -/
inductive Op where
  | put (id status secret : String)
  | find (secret : String)
  | get (id : String)
  | advance (ns : Nat)
  deriving Repr, DecidableEq

/-- The registry after an operation. -/
def step (r : Registry) : Op → Registry
  | .put id status secret => r.put id status secret
  | .find secret => (r.find secret).2
  | .get _ => r
  | .advance ns => r.advance ns

/-- The registry after a list of operations. -/
def run (r : Registry) (ops : List Op) : Registry := ops.foldl step r

/-- The record an operation puts. -/
def Op.written? : Op → Option Record
  | .put id status secret => some ⟨id, status, secret⟩
  | _ => none

/-- The records put by a list of operations, the oldest first. -/
def written (ops : List Op) : List Record := ops.filterMap Op.written?

theorem run_append (r : Registry) (ops more : List Op) :
    r.run (ops ++ more) = (r.run ops).run more :=
  List.foldl_append

theorem forgetAll_bounds : ∀ (es : List Entry) (r : Registry),
    (r.forgetAll es).capacity = r.capacity ∧ (r.forgetAll es).ttl = r.ttl
  | [], _ => ⟨rfl, rfl⟩
  | e :: es, r => forgetAll_bounds es (r.forget e)

theorem forgetAll_held : ∀ (es : List Entry) (r : Registry),
    (r.forgetAll es).entries = r.entries ∧ (r.forgetAll es).now = r.now
  | [], _ => ⟨rfl, rfl⟩
  | e :: es, r => forgetAll_held es (r.forget e)

theorem forgetAll_sweeper : ∀ (es : List Entry) (r : Registry),
    (r.forgetAll es).sweeper = r.sweeper
  | [], _ => rfl
  | e :: es, r => forgetAll_sweeper es (r.forget e)

theorem advance_bounds (r : Registry) (ns : Nat) :
    (r.advance ns).capacity = r.capacity ∧ (r.advance ns).ttl = r.ttl := by
  unfold advance
  split
  · exact ⟨rfl, rfl⟩
  · simp only
    split
    · exact ⟨rfl, rfl⟩
    · exact forgetAll_bounds _ _

theorem step_bounds (r : Registry) (op : Op) :
    (r.step op).capacity = r.capacity ∧ (r.step op).ttl = r.ttl := by
  cases op with
  | put id status secret =>
    obtain ⟨hcap, httl, -⟩ := put_bounds r id status secret
    exact ⟨hcap, httl⟩
  | find secret =>
    obtain ⟨hcap, httl, -⟩ := find_bounds r secret
    exact ⟨hcap, httl⟩
  | get id => exact ⟨rfl, rfl⟩
  | advance ns => exact advance_bounds r ns

/-- No operation changes the bounds. -/
theorem run_bounds : ∀ (ops : List Op) (r : Registry),
    (r.run ops).capacity = r.capacity ∧ (r.run ops).ttl = r.ttl
  | [], _ => ⟨rfl, rfl⟩
  | op :: ops, r => by
    obtain ⟨hcap, httl⟩ := step_bounds r op
    obtain ⟨hcap', httl'⟩ := run_bounds ops (r.step op)
    exact ⟨hcap'.trans hcap, httl'.trans httl⟩

theorem step_built {h : List Record} {r : Registry} (hb : Built h r.tables) (op : Op) :
    Built (op.written?.toList ++ h) (r.step op).tables := by
  cases op with
  | put id status secret => exact put_built hb id status secret
  | find secret =>
    obtain ⟨es, hp, ht⟩ := find_tables hb.coherent.keys secret
    simp only [step, Op.written?, ht]
    exact hb.reorder hp
  | get id => exact hb
  | advance ns => exact advance_built hb ns

/-- **The tables after a run are built from the records it put.** -/
theorem run_built {h : List Record} : ∀ (ops : List Op) {r : Registry}, Built h r.tables →
    Built ((written ops).reverse ++ h) (r.run ops).tables
  | [], _, hb => hb
  | op :: ops, r, hb => by
    have hrest := run_built ops (step_built hb op)
    cases hw : op.written? with
    | none => simpa [written, hw, run] using hrest
    | some rec => simpa [written, hw, run] using hrest

theorem built_run_new (capacity ttl : Int) (ops : List Op) :
    Built (written ops).reverse ((new capacity ttl).run ops).tables := by
  have hb : Built [] (new capacity ttl).tables := Built.empty
  simpa using run_built ops hb

/-- The tables of every run agree. -/
theorem coherent_run (capacity ttl : Int) (ops : List Op) :
    Coherent ((new capacity ttl).run ops).tables :=
  (built_run_new capacity ttl ops).coherent

/-- **The indexes are exact after every run**, for every capacity and time to
live. The id index has an entry for exactly the ids held, expired ones
included, and gives each the secret of its record. Every pair of the secret
index is the converse of a pair of the id index, so no id is the target of two
secrets, there are no more secrets than records, and every pair leads to a
record that is held with that secret. Records are under their own ids. A
lookup by secret that finds a visible record finds one with that secret. -/
theorem run_indexes_exact (capacity ttl : Int) (ops : List Op) :
    let r := (new capacity ttl).run ops
    (∀ id, r.byId.get? id = (r.held? id).map (·.record.clientSecret)) ∧
    r.byId.keys.Nodup ∧
    (∀ secret id, (secret, id) ∈ r.bySecret → r.byId.get? id = some secret) ∧
    (r.bySecret.map Prod.snd).Nodup ∧
    r.bySecret.length ≤ r.size ∧
    (∀ secret id, (secret, id) ∈ r.bySecret →
      ∃ e, r.held? id = some e ∧ e.record.clientSecret = secret) ∧
    (r.entries.map (·.key)).Nodup ∧
    (∀ e ∈ r.entries, e.record.id = e.key) ∧
    (∀ secret id e, r.bySecret.get? secret = some id → r.visible? id = some e →
      e.record.clientSecret = secret) := by
  intro r
  have hc : Coherent r.tables := coherent_run capacity ttl ops
  have hpair : ∀ secret id, (secret, id) ∈ r.bySecret → r.byId.get? id = some secret :=
    fun secret id hp => hc.bySecret _ _ ((Index.mem_iff_get? hc.secretKeys secret id).mp hp)
  have hheld : ∀ secret id, r.byId.get? id = some secret →
      ∃ e, r.held? id = some e ∧ e.record.clientSecret = secret := by
    intro secret id hid
    rw [hc.byId_eq] at hid
    exact Option.map_eq_some_iff.mp hid
  refine ⟨hc.byId_eq, hc.idKeys, hpair, hc.targets_nodup, hc.bySecret_length_le,
    fun secret id hp => hheld _ _ (hpair _ _ hp), hc.keys, hc.own, ?_⟩
  intro secret id e hs hv
  obtain ⟨x, hx, hxs⟩ := hheld _ _ (hc.bySecret _ _ hs)
  rw [(visible?_eq_some_iff.mp hv).1] at hx
  cases hx
  exact hxs

end Registry
end PaymentGateway
