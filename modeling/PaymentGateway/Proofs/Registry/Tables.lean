/-
# The registry's tables and how they are built

A lookup goes through three tables: the entries held, the secret index and the
id index. Whatever the registry does, its tables change in three ways only:
the entries are reordered, an entry leaves together with its own index
entries, or an entry whose key is not held comes in and is indexed. `Built h t`
says that tables `t` come about in this way while the records `h` are put, the
newest first; it leaves out the clock, the slots and the bounds, which only
decide what leaves and when.

Tables so built are coherent (`Built.coherent`): keys are held once, every
record is under its own id, the id index gives exactly the secrets of the
entries held, and the secret index is a part of its converse. No operation has
to be looked at for this but in the three forms above.

Key definitions: `Registry.Tables`, `Registry.Coherent`, `Registry.Built`.
Key theorems: `Registry.Coherent.drop`, `Registry.Coherent.add`,
`Registry.Built.coherent`.
-/
import PaymentGateway.Registry
import Mathlib.Data.List.Nodup
import Mathlib.Data.List.Perm.Subperm

namespace PaymentGateway
namespace Index

/-! ### Looking up after a change -/

theorem get?_cons (k v : String) (m : Index) (j : String) :
    get? ((k, v) :: m) j = if j = k then some v else m.get? j := by
  by_cases h : j = k
  · subst h
    simp [get?]
  · have hb : (j == k) = false := by simpa using h
    simp [get?, h, List.lookup_cons, hb]

theorem get?_erase (m : Index) (k j : String) :
    (m.erase k).get? j = if j = k then none else m.get? j := by
  induction m with
  | nil => simp [erase, get?]
  | cons e m ih =>
    obtain ⟨a, b⟩ := e
    by_cases ha : a = k
    · subst ha
      have he : erase ((a, b) :: m) a = erase m a := by simp [erase]
      rw [he, ih, get?_cons]
      by_cases hj : j = a <;> simp [hj]
    · have he : erase ((a, b) :: m) k = (a, b) :: erase m k := by simp [erase, ha]
      rw [he, get?_cons, get?_cons, ih]
      by_cases hj : j = a
      · subst hj
        simp [ha]
      · simp [hj]

theorem get?_set (m : Index) (k v j : String) :
    (m.set k v).get? j = if j = k then some v else m.get? j := by
  rw [set, get?_cons, get?_erase]
  by_cases h : j = k <;> simp [h]

/-- Setting a key that has no value adds one pair. -/
theorem get?_set_new {m : Index} {k : String} (hk : m.get? k = none) (v j w : String) :
    (m.set k v).get? j = some w ↔ m.get? j = some w ∨ k = j ∧ v = w := by
  rw [get?_set]
  by_cases h : j = k
  · simp [h, hk]
  · simp [h, Ne.symm h]

theorem get?_eraseIf (m : Index) (k v j : String) :
    (m.eraseIf k v).get? j = if j = k ∧ m.get? k = some v then none else m.get? j := by
  unfold eraseIf
  by_cases hv : m.get? k = some v
  · rw [if_pos hv, get?_erase]
    simp [hv]
  · simp [hv]

/-- Erasing leaves no new pair. -/
theorem get?_of_eraseIf {m : Index} {k v j w : String} (h : (m.eraseIf k v).get? j = some w) :
    m.get? j = some w := by
  rw [get?_eraseIf] at h
  split at h
  · cases h
  · exact h

theorem erase_erase (m : Index) (k : String) : (m.erase k).erase k = m.erase k := by
  simp [erase, List.filter_filter]

/-- What is erased of a key before the key is set does not matter. -/
theorem set_eraseIf (m : Index) (k v w : String) : (m.eraseIf k v).set k w = m.set k w := by
  unfold eraseIf
  split
  · rw [set, set, erase_erase]
  · rfl

/-! ### Keys -/

/-- The keys of an index, each as often as it occurs. -/
def keys (m : Index) : List String := m.map Prod.fst

theorem keys_erase_nodup {m : Index} (h : m.keys.Nodup) (k : String) : (m.erase k).keys.Nodup :=
  h.sublist (List.filter_sublist.map _)

theorem keys_eraseIf_nodup {m : Index} (h : m.keys.Nodup) (k v : String) :
    (m.eraseIf k v).keys.Nodup := by
  unfold eraseIf
  split
  · exact keys_erase_nodup h k
  · exact h

theorem keys_set_nodup {m : Index} (h : m.keys.Nodup) (k v : String) : (m.set k v).keys.Nodup := by
  have hk : k ∉ (m.erase k).keys := by simp [keys, erase]
  exact List.nodup_cons.mpr ⟨hk, keys_erase_nodup h k⟩

theorem mem_of_get? {m : Index} {k v : String} (h : m.get? k = some v) : (k, v) ∈ m := by
  induction m with
  | nil => simp [get?] at h
  | cons e m ih =>
    obtain ⟨a, b⟩ := e
    rw [get?_cons] at h
    split at h
    · cases h
      subst k
      exact List.mem_cons_self
    · exact List.mem_cons_of_mem _ (ih h)

/-- With every key once, the pairs are what the lookups give. -/
theorem mem_iff_get? {m : Index} (hn : m.keys.Nodup) (k v : String) :
    (k, v) ∈ m ↔ m.get? k = some v := by
  refine ⟨fun h => ?_, mem_of_get?⟩
  induction m with
  | nil => simp at h
  | cons e m ih =>
    obtain ⟨a, b⟩ := e
    simp only [keys, List.map_cons, List.nodup_cons] at hn
    rw [get?_cons]
    rcases List.mem_cons.mp h with h | h
    · cases h
      simp
    · have hne : k ≠ a := fun he => hn.1 (he ▸ List.mem_map_of_mem (f := Prod.fst) h)
      rw [if_neg hne]
      exact ih hn.2 h

end Index

namespace Registry

/-- What lookups go through: the entries held and the two indexes. -/
structure Tables where
  entries : List Entry
  bySecret : Index
  byId : Index

/-- The tables of a registry. -/
def tables (r : Registry) : Tables := ⟨r.entries, r.bySecret, r.byId⟩

/-- The tables agree: no key is held twice, a record's id is its key, the id
index gives the secrets of the entries held and nothing else, every pair of
the secret index is the converse of one of the id index, and no index has a
key twice. -/
structure Coherent (t : Tables) : Prop where
  keys : (t.entries.map (·.key)).Nodup
  own : ∀ e ∈ t.entries, e.record.id = e.key
  byId : ∀ id secret, t.byId.get? id = some secret ↔
    ∃ e ∈ t.entries, e.key = id ∧ e.record.clientSecret = secret
  bySecret : ∀ secret id, t.bySecret.get? secret = some id → t.byId.get? id = some secret
  secretKeys : t.bySecret.keys.Nodup
  idKeys : t.byId.keys.Nodup

theorem coherent_empty : Coherent ⟨[], [], []⟩ where
  keys := List.nodup_nil
  own := by simp
  byId := by simp [Index.get?]
  bySecret := by simp [Index.get?]
  secretKeys := List.nodup_nil
  idKeys := List.nodup_nil

namespace Coherent

variable {t : Tables} {e : Entry} {es : List Entry} {bySecret byId : Index}

/-- The id index knows every entry held. -/
theorem byId_of_mem (h : Coherent t) (he : e ∈ t.entries) :
    t.byId.get? e.key = some e.record.clientSecret :=
  (h.byId _ _).mpr ⟨e, he, rfl, rfl⟩

/-- The secret index points at entries held with that secret. -/
theorem entry_of_secret (h : Coherent t) {secret id : String}
    (hs : t.bySecret.get? secret = some id) :
    ∃ e ∈ t.entries, e.key = id ∧ e.record.clientSecret = secret :=
  (h.byId _ _).mp (h.bySecret _ _ hs)

theorem reorder (h : Coherent ⟨es, bySecret, byId⟩) {es' : List Entry} (hp : es.Perm es') :
    Coherent ⟨es', bySecret, byId⟩ where
  keys := (hp.map _).nodup_iff.mp h.keys
  own x hx := h.own x (hp.mem_iff.mpr hx)
  byId id secret := by
    rw [h.byId]
    simp only [hp.mem_iff]
  bySecret := h.bySecret
  secretKeys := h.secretKeys
  idKeys := h.idKeys

/-- An entry that leaves takes its own index entries along, and only those. -/
theorem drop (h : Coherent ⟨e :: es, bySecret, byId⟩) :
    Coherent ⟨es, bySecret.eraseIf e.record.clientSecret e.key,
      byId.eraseIf e.key e.record.clientSecret⟩ := by
  have hkeys := List.nodup_cons.mp h.keys
  have hother : ∀ x ∈ es, x.key ≠ e.key := fun x hx hk => hkeys.1 (List.mem_map.mpr ⟨x, hx, hk⟩)
  have hheld : byId.get? e.key = some e.record.clientSecret := h.byId_of_mem List.mem_cons_self
  have hget : ∀ id, (byId.eraseIf e.key e.record.clientSecret).get? id =
      if id = e.key then none else byId.get? id := by
    intro id
    rw [Index.get?_eraseIf]
    simp [hheld]
  refine ⟨hkeys.2, fun x hx => h.own x (List.mem_cons_of_mem _ hx), ?_, ?_,
    Index.keys_eraseIf_nodup h.secretKeys _ _, Index.keys_eraseIf_nodup h.idKeys _ _⟩
  · intro id secret
    rw [hget]
    by_cases hid : id = e.key
    · subst hid
      simp only [↓reduceIte, reduceCtorEq, false_iff]
      rintro ⟨x, hx, hk, -⟩
      exact hother x hx hk
    · rw [if_neg hid, h.byId]
      simp [Ne.symm hid]
  · intro secret id hs
    have hid : byId.get? id = some secret := h.bySecret _ _ (Index.get?_of_eraseIf hs)
    have hne : id ≠ e.key := by
      -- the secret that points at the key is the entry's own, which was erased
      rintro rfl
      have hsec : secret = e.record.clientSecret := by
        rw [hheld] at hid
        exact (Option.some.inj hid).symm
      subst hsec
      have hpoint := Index.get?_of_eraseIf hs
      rw [Index.get?_eraseIf] at hs
      simp [hpoint] at hs
    rw [hget, if_neg hne]
    exact hid

/-- An entry with a new key, under its own id, comes in and is indexed. -/
theorem add (h : Coherent ⟨es, bySecret, byId⟩) (hnew : e.key ∉ es.map (·.key))
    (hown : e.record.id = e.key) :
    Coherent ⟨e :: es, bySecret.set e.record.clientSecret e.key,
      byId.set e.key e.record.clientSecret⟩ := by
  have hnone : ∀ secret, byId.get? e.key ≠ some secret := by
    intro secret hs
    obtain ⟨x, hx, hk, -⟩ := (h.byId _ _).mp hs
    exact hnew (List.mem_map.mpr ⟨x, hx, hk⟩)
  refine ⟨List.nodup_cons.mpr ⟨hnew, h.keys⟩, List.forall_mem_cons.mpr ⟨hown, h.own⟩, ?_, ?_,
    Index.keys_set_nodup h.secretKeys _ _, Index.keys_set_nodup h.idKeys _ _⟩
  · intro id secret
    rw [Index.get?_set]
    by_cases hid : id = e.key
    · subst hid
      have hes : ¬ ∃ x ∈ es, x.key = e.key ∧ x.record.clientSecret = secret := by
        rintro ⟨x, hx, hk, -⟩
        exact hnew (List.mem_map.mpr ⟨x, hx, hk⟩)
      simp only [List.mem_cons, exists_eq_or_imp, ↓reduceIte, Option.some.injEq, true_and, hes,
        or_false]
    · rw [if_neg hid, h.byId]
      simp [Ne.symm hid]
  · intro secret id hs
    rw [Index.get?_set] at hs
    rw [Index.get?_set]
    split at hs
    · rename_i hsec
      cases hs
      simp [hsec]
    · have hid := h.bySecret _ _ hs
      have hne : id ≠ e.key := fun he => hnone secret (he ▸ hid)
      rw [if_neg hne]
      exact hid

/-- No key is the target of two secrets. -/
theorem targets_nodup (h : Coherent t) : (t.bySecret.map Prod.snd).Nodup := by
  refine (List.nodup_map_iff_inj_on (List.Nodup.of_map _ h.secretKeys)).mpr ?_
  rintro ⟨s, id⟩ hs ⟨s', id'⟩ hs' rfl
  have h1 := h.bySecret _ _ ((Index.mem_iff_get? h.secretKeys s id).mp hs)
  have h2 := h.bySecret _ _ ((Index.mem_iff_get? h.secretKeys s' id).mp hs')
  rw [h1] at h2
  cases h2
  rfl

/-- There are no more secrets than entries. -/
theorem bySecret_length_le (h : Coherent t) : t.bySecret.length ≤ t.entries.length := by
  have hsub : t.bySecret.map Prod.snd ⊆ t.entries.map (·.key) := by
    intro id hid
    obtain ⟨⟨s, id'⟩, hp, rfl⟩ := List.mem_map.mp hid
    obtain ⟨e, he, hk, -⟩ := h.entry_of_secret ((Index.mem_iff_get? h.secretKeys s id').mp hp)
    exact List.mem_map.mpr ⟨e, he, hk⟩
  have hle := (h.targets_nodup.subperm hsub).length_le
  simpa using hle

end Coherent

/-- Tables that come about while the records `h` are put, the newest first. -/
inductive Built : List Record → Tables → Prop where
  | empty : Built [] ⟨[], [], []⟩
  | reorder {h : List Record} {es es' : List Entry} {bySecret byId : Index} (hp : es.Perm es') :
    Built h ⟨es, bySecret, byId⟩ → Built h ⟨es', bySecret, byId⟩
  | drop {h : List Record} {e : Entry} {es : List Entry} {bySecret byId : Index} :
    Built h ⟨e :: es, bySecret, byId⟩ →
    Built h ⟨es, bySecret.eraseIf e.record.clientSecret e.key,
      byId.eraseIf e.key e.record.clientSecret⟩
  | add {h : List Record} {e : Entry} {es : List Entry} {bySecret byId : Index}
    (hnew : e.key ∉ es.map (·.key)) (hown : e.record.id = e.key) :
    Built h ⟨es, bySecret, byId⟩ →
    Built (e.record :: h) ⟨e :: es, bySecret.set e.record.clientSecret e.key,
      byId.set e.key e.record.clientSecret⟩

/-- **Built tables are coherent.** -/
theorem Built.coherent {h : List Record} {t : Tables} (hb : Built h t) : Coherent t := by
  induction hb with
  | empty => exact coherent_empty
  | reorder hp _ ih => exact ih.reorder hp
  | drop _ ih => exact ih.drop
  | add hnew hown _ ih => exact ih.add hnew hown

end Registry
end PaymentGateway
