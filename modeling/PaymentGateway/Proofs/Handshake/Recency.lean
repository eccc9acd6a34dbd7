/-
# The least recently used record leaves

A registry with a capacity and no time to live keeps its entries in an order, and pushes
out the last one when a new key finds no room. What is held can be told from the whole
history: the `capacity` ids used last, where an id is used by a put and by a lookup that
finds its record (`Registry.uses`). Looking a record up by its id is no use, and neither is
a lookup that finds nothing.

The ids used, each where it was used last and the newest first, are `Registry.recent`. A
use brings the id to the front of that list, and of the list cut at the capacity too,
whether the id was in the part cut off or not (`Registry.take_recent_snoc`,
`Registry.take_recent_snoc_new`). So the order of the entries is the list cut at the
capacity, after one operation and after a run (`Registry.Recent.step`,
`Registry.Recent.run`). A confirmation that fails at the provider has looked its record
up, which is a use like any other.

Key definitions: `Registry.uses`, `Registry.recent`, `Registry.Recent`.
Key theorems: `Registry.mem_take_recent_iff`, `Registry.Recent.run`,
`Handshake.least_recently_used_leaves`.
-/
import PaymentGateway.Proofs.Handshake.Failure
import PaymentGateway.Proofs.Registry.History
import Mathlib.Data.List.Dedup

namespace PaymentGateway
namespace Registry

/-! ### The order of last use -/

/-- The ids of a list of uses, each once and the one used last first. -/
def recent (uses : List String) : List String := uses.dedup.reverse

theorem dedup_append_filter (v : List String) : ∀ u : List String,
    (u ++ v).dedup = u.dedup.filter (· ∉ v) ++ v.dedup
  | [] => rfl
  | a :: u => by
    rw [List.cons_append]
    by_cases ha : a ∈ u
    · rw [List.dedup_cons_of_mem (List.mem_append_left v ha), List.dedup_cons_of_mem ha,
        dedup_append_filter v u]
    rw [List.dedup_cons_of_notMem ha]
    by_cases hv : a ∈ v
    · rw [List.dedup_cons_of_mem (List.mem_append_right u hv), dedup_append_filter v u,
        List.filter_cons_of_neg (by simpa using hv)]
    · have hnew : a ∉ u ++ v := by simp [ha, hv]
      rw [List.dedup_cons_of_notMem hnew, dedup_append_filter v u,
        List.filter_cons_of_pos (by simpa using hv), List.cons_append]

/-- Later uses come first, and earlier ones count for the ids that were not used since. -/
theorem recent_append (u v : List String) :
    recent (u ++ v) = recent v ++ (recent u).filter (· ∉ v) := by
  rw [recent, dedup_append_filter, List.reverse_append, recent, recent, List.filter_reverse]

theorem recent_nodup (u : List String) : (recent u).Nodup :=
  List.nodup_reverse.mpr (List.nodup_dedup u)

theorem mem_recent {u : List String} {id : String} : id ∈ recent u ↔ id ∈ u := by
  rw [recent, List.mem_reverse, List.mem_dedup]

theorem recent_length (u : List String) : (recent u).length = u.dedup.length :=
  List.length_reverse

/-- A use brings an id to the front. -/
theorem recent_snoc (u : List String) (id : String) :
    recent (u ++ [id]) = id :: (recent u).filter (· ≠ id) := by
  rw [recent_append]
  simp [recent]

/-- An id that was used before stands right behind the ids used since. -/
theorem recent_last (before : List String) {id : String} {after : List String} (h : id ∉ after) :
    ∃ older, recent (before ++ id :: after) = recent after ++ id :: older := by
  have hlast : recent (id :: after) = recent after ++ [id] := by
    rw [recent, List.dedup_cons_of_notMem h, List.reverse_cons, recent]
  refine ⟨(recent before).filter (· ∉ id :: after), ?_⟩
  rw [recent_append, hlast, List.append_assoc, List.singleton_append]

/-- **An id is among the `n` used last** if fewer than `n` others were used since. -/
theorem mem_take_recent_iff {u : List String} {id : String} {n : Nat} :
    id ∈ (recent u).take n ↔
      ∃ before after, u = before ++ id :: after ∧ id ∉ after ∧ after.dedup.length < n := by
  constructor
  · intro h
    have hmem : id ∈ u := mem_recent.mp (List.mem_of_mem_take h)
    obtain ⟨after, before, hsplit, hid⟩ := List.eq_append_cons_of_mem (List.mem_reverse.mpr hmem)
    have hu : u = before.reverse ++ id :: after.reverse := by
      rw [← List.reverse_inj, hsplit]
      simp
    have hid' : id ∉ after.reverse := by simpa using hid
    refine ⟨before.reverse, after.reverse, hu, hid', ?_⟩
    obtain ⟨older, hrecent⟩ := recent_last before.reverse hid'
    by_contra hfar
    have hcut : n ≤ (recent after.reverse).length := by
      rw [recent_length]
      exact Nat.le_of_not_lt hfar
    rw [hu, hrecent, List.take_append_of_le_length hcut] at h
    exact hid' (mem_recent.mp (List.mem_of_mem_take h))
  · rintro ⟨before, after, rfl, hid, hnear⟩
    obtain ⟨older, hrecent⟩ := recent_last before hid
    obtain ⟨m, rfl⟩ := Nat.exists_eq_add_of_lt hnear
    rw [hrecent, ← recent_length, Nat.add_assoc, List.take_length_add_append, List.take_succ_cons]
    exact List.mem_append_right _ List.mem_cons_self

/-- A use keeps an id among the `n` used last, for as long as fewer ids are used. -/
theorem mem_take_recent_since (before : List String) (id : String) {after : List String} {n : Nat}
    (h : after.dedup.length < n) : id ∈ (recent (before ++ id :: after)).take n := by
  have hlength : (recent (id :: after)).length ≤ n := by
    rw [recent_length, List.dedup_cons]
    split
    · exact Nat.le_of_lt h
    · exact h
  rw [recent_append, List.take_append, List.take_of_length_le hlength, List.mem_append]
  exact .inl (mem_recent.mpr List.mem_cons_self)

/-! ### The order, cut at the capacity -/

section Cut

variable {id : String} {n : Nat}

theorem take_filter_of_mem : ∀ {l : List String} {n : Nat}, l.Nodup → id ∈ l.take (n + 1) →
    (l.filter (· ≠ id)).take n = (l.take (n + 1)).filter (· ≠ id)
  | [], _, _, h => by simp at h
  | x :: l, n, hn, h => by
    obtain ⟨hx, hn⟩ := List.nodup_cons.mp hn
    rw [List.take_succ_cons] at h ⊢
    by_cases hxid : x = id
    · subst hxid
      have hnone : ∀ y ∈ l, decide (y ≠ x) = true := fun y hy =>
        decide_eq_true fun he => hx (he ▸ hy)
      rw [List.filter_cons_of_neg (by simp), List.filter_cons_of_neg (by simp),
        List.filter_eq_self.mpr hnone,
        List.filter_eq_self.mpr fun y hy => hnone y (List.mem_of_mem_take hy)]
    · have hlater : id ∈ l.take n := (List.mem_cons.mp h).resolve_left fun he => hxid he.symm
      rw [List.filter_cons_of_pos (by simpa using hxid),
        List.filter_cons_of_pos (by simpa using hxid)]
      cases n with
      | zero => simp at hlater
      | succ n => rw [List.take_succ_cons, take_filter_of_mem hn hlater]

theorem take_filter_of_notMem : ∀ {l : List String} {n : Nat}, id ∉ l.take n →
    (l.filter (· ≠ id)).take n = l.take n
  | [], _, _ => rfl
  | _ :: _, 0, _ => by simp
  | x :: l, n + 1, h => by
    rw [List.take_succ_cons, List.mem_cons, not_or] at h
    have hxid : x ≠ id := fun he => h.1 he.symm
    rw [List.filter_cons_of_pos (by simpa using hxid), List.take_succ_cons, List.take_succ_cons,
      take_filter_of_notMem h.2]

/-- A use of an id among the `n + 1` used last brings it to their front. -/
theorem take_recent_snoc {u : List String} (h : id ∈ (recent u).take (n + 1)) :
    (recent (u ++ [id])).take (n + 1) = id :: ((recent u).take (n + 1)).filter (· ≠ id) := by
  rw [recent_snoc, List.take_succ_cons, take_filter_of_mem (recent_nodup u) h]

/-- A use of another id leaves the last of them out. -/
theorem take_recent_snoc_new {u : List String} (h : id ∉ (recent u).take (n + 1)) :
    (recent (u ++ [id])).take (n + 1) = id :: ((recent u).take (n + 1)).take n := by
  have hcut : ((recent u).take (n + 1)).take n = (recent u).take n := by
    rw [List.take_take, Nat.min_eq_left (Nat.le_succ n)]
  have hbefore : id ∉ (recent u).take n := fun hid =>
    h (List.mem_of_mem_take (hcut.symm ▸ hid : id ∈ ((recent u).take (n + 1)).take n))
  rw [recent_snoc, List.take_succ_cons, take_filter_of_notMem hbefore, hcut]

end Cut

/-! ### The order of the entries -/

/-- The id that an operation uses: that of a put, or of the record that a lookup by secret
finds. -/
def used? (r : Registry) : Op → Option String
  | .put id _ _ => some id
  | .find secret => (r.find secret).1.map (·.id)
  | .get _ => none
  | .advance _ => none

/-- The ids used by a list of operations, the last use last. -/
def uses (r : Registry) : List Op → List String
  | [] => []
  | op :: ops => (r.used? op).toList ++ (r.step op).uses ops

theorem others_keys (r : Registry) (id : String) :
    (r.others id).map (·.key) = (r.entries.map (·.key)).filter (· ≠ id) := by
  rw [others, List.filter_map]
  rfl

/-- A put on a key that is held brings it to the front. -/
theorem put_keys_held {r : Registry} (hc : Coherent r.tables) {id : String}
    (h : id ∈ r.entries.map (·.key)) (status secret : String) :
    (r.put id status secret).entries.map (·.key) =
      id :: (r.entries.map (·.key)).filter (· ≠ id) := by
  obtain ⟨e, he⟩ : ∃ e, r.held? id = some e := by
    rw [← Option.isSome_iff_exists, Option.isSome_iff_ne_none]
    exact fun hnone => held?_eq_none_iff.mp hnone h
  have hentries : (r.put id status secret).entries =
      r.newEntry id status secret :: r.others id :=
    congrArg Tables.entries (put_held status secret hc he)
  rw [hentries, List.map_cons, others_keys]
  rfl

/-- A put on a new key brings it in front of as many others as there is room for. -/
theorem put_keys_new {r : Registry} (hc : Coherent r.tables) {n : Nat} (hcap : r.capacity = n + 1)
    (hsize : r.size ≤ n + 1) {id : String} (h : id ∉ r.entries.map (·.key))
    (status secret : String) :
    (r.put id status secret).entries.map (·.key) = id :: (r.entries.map (·.key)).take n := by
  have hnone : r.held? id = none := held?_eq_none_iff.mpr h
  by_cases hf : r.Full
  · obtain ⟨init, last, hsplit, ht⟩ := put_full status secret hc hnone hf
    have hentries : (r.put id status secret).entries = r.newEntry id status secret :: init :=
      congrArg Tables.entries ht
    have hinit : init.length = n := by
      have hfull := hf.2
      rw [size, hsplit, List.length_append, List.length_singleton] at hsize
      rw [hcap, hsplit, List.length_append, List.length_singleton] at hfull
      omega
    rw [hentries, hsplit, List.map_cons, ← List.map_take, ← hinit, List.take_left]
    rfl
  · have hentries : (r.put id status secret).entries =
        r.newEntry id status secret :: r.entries :=
      congrArg Tables.entries (put_room status secret hc hnone hf)
    have hroom : r.entries.length ≤ n := by
      by_contra hover
      exact hf ⟨by omega, by omega⟩
    rw [hentries, List.map_cons, List.take_of_length_le (by simpa using hroom)]
    rfl

/-- Finding a record brings its key to the front. -/
theorem find_keys {r : Registry} (hc : Coherent r.tables) {secret : String} {rec : Record}
    (h : (r.find secret).1 = some rec) :
    rec.id ∈ r.entries.map (·.key) ∧
      (r.find secret).2.entries.map (·.key) =
        rec.id :: (r.entries.map (·.key)).filter (· ≠ rec.id) := by
  obtain ⟨hs, id, e, hid, hv, rfl, -⟩ := find_eq_some_iff.mp h
  obtain ⟨hmem, -⟩ := (held?_eq_some_iff hc.keys).mp (visible?_eq_some_iff.mp hv).1
  have hfound : (r.bySecret.get? secret).bind r.visible? = some e :=
    Option.bind_eq_some_iff.mpr ⟨id, hid, hv⟩
  have hafter : (r.find secret).2 = r.touch e := by
    rw [find, if_neg hs, hfound]
  rw [hafter, touch, hc.own e hmem]
  refine ⟨List.mem_map_of_mem hmem, ?_⟩
  rw [List.map_cons, others_keys]

/-- **The entries are in the order of last use, cut at the capacity**, in a registry with a
capacity and no time to live. -/
structure Recent (n : Nat) (u : List String) (r : Registry) : Prop where
  built : ∃ h, Built h r.tables
  capacity : r.capacity = n + 1
  lasting : r.ttl = 0
  keys : r.entries.map (·.key) = (recent u).take (n + 1)

section Runs

variable {n : Nat} {u : List String} {r : Registry}

theorem Recent.coherent (h : Recent n u r) : Coherent r.tables := by
  obtain ⟨_, hb⟩ := h.built
  exact hb.coherent

theorem Recent.size_eq (h : Recent n u r) : r.size = min (n + 1) u.dedup.length := by
  rw [← recent_length, ← List.length_take, ← h.keys, List.length_map, size]

/-- What an operation does to the order: its use comes last. -/
theorem Recent.step_keys (h : Recent n u r) (op : Op) :
    (r.step op).entries.map (·.key) = (recent (u ++ (r.used? op).toList)).take (n + 1) := by
  have hc := h.coherent
  cases op with
  | put id status secret =>
    show (r.put id status secret).entries.map (·.key) = (recent (u ++ [id])).take (n + 1)
    by_cases hid : id ∈ r.entries.map (·.key)
    · rw [put_keys_held hc hid, take_recent_snoc (h.keys ▸ hid), h.keys]
    · have hsize : r.size ≤ n + 1 := h.size_eq ▸ Nat.min_le_left _ _
      rw [put_keys_new hc h.capacity hsize hid, take_recent_snoc_new (h.keys ▸ hid), h.keys]
  | find secret =>
    cases hf : (r.find secret).1 with
    | none => rw [step, find_none hc hf, used?, hf, Option.map_none, Option.toList_none,
        List.append_nil, h.keys]
    | some rec =>
      obtain ⟨hid, hkeys⟩ := find_keys hc hf
      rw [step, hkeys, used?, hf, Option.map_some, Option.toList_some,
        take_recent_snoc (h.keys ▸ hid), h.keys]
  | get id => rw [step, h.keys, used?, Option.toList_none, List.append_nil]
  | advance ns =>
    have hsame : r.step (.advance ns) = r := by rw [step, advance, if_pos h.lasting]
    rw [hsame, h.keys, used?, Option.toList_none, List.append_nil]

/-- **One operation keeps the order.** -/
theorem Recent.step (h : Recent n u r) (op : Op) :
    Recent n (u ++ (r.used? op).toList) (r.step op) where
  built := by
    obtain ⟨_, hb⟩ := h.built
    exact ⟨_, step_built hb op⟩
  capacity := (step_bounds r op).1.trans h.capacity
  lasting := (step_bounds r op).2.trans h.lasting
  keys := h.step_keys op

/-- **A run keeps the order.** -/
theorem Recent.run : ∀ (ops : List Op) {u : List String} {r : Registry}, Recent n u r →
    Recent n (u ++ r.uses ops) (r.run ops)
  | [], u, r, h => by
    rw [uses, List.append_nil]
    exact h
  | op :: ops, u, r, h => by
    have hrest := Recent.run ops (h.step op)
    rwa [List.append_assoc] at hrest

end Runs

theorem recent_new {capacity ttl : Int} {n : Nat} (hcap : capacity.toNat = n + 1)
    (httl : ttl ≤ 0) : Recent n [] (new capacity ttl) where
  built := ⟨[], .empty⟩
  capacity := hcap
  lasting := Int.toNat_of_nonpos httl
  keys := rfl

/-! ### The ids used are the ids put -/

/-- What is used was put, in the run or before it. -/
theorem mem_of_mem_uses {id : String} : ∀ (ops : List Op) {r : Registry} {h : List Record},
    Built h r.tables → id ∈ r.uses ops → id ∈ (written ops ++ h).map (·.id)
  | [], _, _, _, hid => by simp [uses] at hid
  | op :: ops, r, h, hb, hid => by
    rcases List.mem_append.mp hid with hid | hid
    · cases op with
      | put id' status secret =>
        simp only [used?, Option.toList_some, List.mem_singleton] at hid
        simp [written, Op.written?, hid]
      | find secret =>
        obtain ⟨rec, hf, rfl⟩ := Option.map_eq_some_iff.mp (Option.mem_toList.mp hid)
        obtain ⟨-, -, -, hlast, -⟩ := (find_iff_last hb).mp hf
        have hmem : rec ∈ h := List.mem_of_find?_eq_some hlast
        exact List.mem_map_of_mem (List.mem_append_right _ hmem)
      | get _ => simp [used?] at hid
      | advance _ => simp [used?] at hid
    · have hrest := mem_of_mem_uses ops (step_built hb op) hid
      have hsame : ∀ x, x ∈ written ops ++ (op.written?.toList ++ h) ↔
          x ∈ written (op :: ops) ++ h := by
        intro x
        cases hw : op.written? <;> simp [written, hw, or_left_comm]
      obtain ⟨rec, hrec, rfl⟩ := List.mem_map.mp hrest
      exact List.mem_map_of_mem ((hsame rec).mp hrec)

/-- What is put is used. -/
theorem mem_uses_of_mem {id : String} : ∀ (ops : List Op) {r : Registry},
    id ∈ (written ops).map (·.id) → id ∈ r.uses ops
  | [], _, h => by simp [written] at h
  | op :: ops, r, h => by
    rw [uses, List.mem_append]
    cases op with
    | put id' status secret =>
      rcases List.mem_cons.mp h with rfl | h
      · exact .inl (by simp [used?])
      · exact .inr (mem_uses_of_mem ops h)
    | find _ => exact .inr (mem_uses_of_mem ops h)
    | get _ => exact .inr (mem_uses_of_mem ops h)
    | advance _ => exact .inr (mem_uses_of_mem ops h)

/-- As many ids are used as are put. -/
theorem uses_dedup_length (capacity ttl : Int) (ops : List Op) :
    ((new capacity ttl).uses ops).dedup.length = ((written ops).map (·.id)).dedup.length := by
  have hb : Built [] (new capacity ttl).tables := .empty
  refine List.Perm.length_eq ((List.perm_ext_iff_of_nodup (List.nodup_dedup _)
    (List.nodup_dedup _)).mpr fun id => ?_)
  rw [List.mem_dedup, List.mem_dedup]
  exact ⟨fun hid => by simpa using mem_of_mem_uses ops hb hid, mem_uses_of_mem ops⟩

/-! ### Looking a record up by its id -/

/-- Whether an operation looks a record up by its id. -/
def Op.isGet : Op → Bool
  | .get _ => true
  | _ => false

/-- **Lookups by id may as well be left out.** -/
theorem run_without_gets : ∀ (ops : List Op) (r : Registry),
    r.run (ops.filter fun op => !op.isGet) = r.run ops
  | [], _ => rfl
  | op :: ops, r => by
    have hrest := run_without_gets ops (r.step op)
    cases op with
    | put id status secret => exact hrest
    | find secret => exact hrest
    | get id => exact hrest
    | advance ns => exact hrest

end Registry

namespace Handshake

open Registry (recent written)

variable {σ : Type}

/-- A confirmation that fails at the provider is a lookup to the registry. -/
theorem confirm_failed_registry {p : Provider σ} {publish : Publish} {r : Registry} {s : σ}
    {req : ConfirmRequest} {rec : Record} {f : Fault}
    (hfind : (r.find req.clientSecret).1 = some rec)
    (hf : (confirm p publish r s req).result = .error f) :
    (confirm p publish r s req).registry = r.step (.find req.clientSecret) := by
  rw [confirm_resolved p publish s hfind] at hf ⊢
  cases hr : reply p s rec (Text.trim req.paymentMethod) with
  | ok i =>
    rw [(confirmRecord_ok p publish _ s rec _ hr).1] at hf
    cases hf
  | error g => exact (confirmRecord_error p publish _ s rec _ hr).2

/-- **The least recently used record leaves**, in every registry with a capacity and no time
to live and after every run. The ids held are those used last, as many as there is room
for: the entries are in the order of last use, and an id is held exactly if fewer ids than
the capacity were used since its last use. As many ids are held as were put, but no more
than the capacity. Lookups by id have no part in this. A confirmation that fails at the
provider counts as a use of the record it resolved: whatever happens then, the record is
held until as many other ids as the capacity have been used. -/
theorem least_recently_used_leaves (capacity ttl : Int) (hcap : 0 < capacity) (httl : ttl ≤ 0)
    (ops : List Registry.Op) (p : Provider σ) (publish : Publish) (s : σ) :
    let c := capacity.toNat
    let r := (Registry.new capacity ttl).run ops
    let uses := (Registry.new capacity ttl).uses ops
    r.entries.map (·.key) = (recent uses).take c ∧
    (∀ id, (r.get? id).isSome ↔
      ∃ before after, uses = before ++ id :: after ∧ id ∉ after ∧ after.dedup.length < c) ∧
    r.size = min c ((written ops).map (·.id)).dedup.length ∧
    (Registry.new capacity ttl).run (ops.filter fun op => !op.isGet) = r ∧
    ∀ req rec f, (r.find req.clientSecret).1 = some rec →
      (confirm p publish r s req).result = .error f →
      ∀ more : List Registry.Op,
        let r' := (confirm p publish r s req).registry
        (r'.run more).entries.map (·.key) = (recent (uses ++ rec.id :: r'.uses more)).take c ∧
        ((r'.uses more).dedup.length < c → ((r'.run more).get? rec.id).isSome) := by
  intro c r uses
  obtain ⟨n, hn⟩ : ∃ n, c = n + 1 := ⟨c - 1, by omega⟩
  have hrecent : Registry.Recent n uses r := Registry.Recent.run ops (Registry.recent_new hn httl)
  have hheld : ∀ {u : List String} {r : Registry}, Registry.Recent n u r → ∀ id,
      (r.get? id).isSome ↔ id ∈ (recent u).take c := by
    intro u r h id
    rw [Registry.get?, Registry.visible?_lasting h.lasting, Option.isSome_map, hn, ← h.keys,
      Option.isSome_iff_ne_none, ne_eq, Registry.held?_eq_none_iff, not_not]
  refine ⟨hn ▸ hrecent.keys, fun id => (hheld hrecent id).trans Registry.mem_take_recent_iff, ?_,
    Registry.run_without_gets ops _, ?_⟩
  · rw [hrecent.size_eq, hn, Registry.uses_dedup_length]
  · intro req rec f hfind hf more r'
    have hr' : r' = r.step (.find req.clientSecret) := confirm_failed_registry hfind hf
    have hused : r.used? (.find req.clientSecret) = some rec.id := by
      rw [Registry.used?, hfind, Option.map_some]
    have hafter : Registry.Recent n (uses ++ rec.id :: r'.uses more) (r'.run more) := by
      have hstep := hrecent.step (.find req.clientSecret)
      rw [hused, ← hr'] at hstep
      have hrun := Registry.Recent.run more hstep
      rwa [List.append_assoc] at hrun
    exact ⟨hn ▸ hafter.keys, fun hfew =>
      (hheld hafter rec.id).mpr (Registry.mem_take_recent_since uses rec.id hfew)⟩

/-- Of two records the first was put earlier and then looked up by its id, which is no use.
A payment for it is declined, which is one. So the next purchase pushes out the other. -/
theorem least_recently_used_leaves_declined :
    let declined : Fault := .remote "confirm" "card_declined" "Your card was declined." 402 none
    let script : Script := ⟨.error .canceled, .error declined, none⟩
    let ops : List Registry.Op := [.put "pi_1" Status.requiresAction "s1",
      .put "pi_2" Status.succeeded "s2", .get "pi_1", .find "s3"]
    let r := (Registry.new 2 0).run ops
    let failed := confirm Script.provider (fun _ => none) r script ⟨"s1", "pm_1"⟩
    let after := failed.registry.run [.put "pi_3" Status.succeeded "s3"]
    r.entries.map (·.key) = ["pi_2", "pi_1"] ∧ r.size = 2 ∧
      failed.result = .error (.call confirmOp (some declined)) ∧
      after.entries.map (·.key) = ["pi_3", "pi_1"] ∧ (after.get? "pi_1").isSome := by
  intro declined script ops r failed after
  obtain ⟨hkeys, -, hsize, -, hconfirm⟩ := least_recently_used_leaves 2 0 (by decide) (by decide)
    ops Script.provider (fun _ => none) script
  have hfailed : failed.result = .error (.call confirmOp (some declined)) := rfl
  obtain ⟨hafter, hheld⟩ := hconfirm ⟨"s1", "pm_1"⟩ ⟨"pi_1", Status.requiresAction, "s1"⟩ _
    (by decide +kernel) hfailed [.put "pi_3" Status.succeeded "s3"]
  exact ⟨hkeys.trans (by decide +kernel), hsize.trans (by decide +kernel), hfailed,
    hafter.trans (by decide +kernel), hheld (by decide +kernel)⟩

end Handshake
end PaymentGateway
