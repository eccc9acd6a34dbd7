/-
# Time to live counts from the last put

In a registry without a capacity a record leaves only when it is swept, and the sweeper
takes none whose time is not up. So what is visible can be told from the history, for any
run of puts, lookups and waits: the record put last under an id, until its time to live is
over, counted from that put (`Registry.lastPut?`). No lookup prolongs it.

A record is counted for longer than it is visible, until the sweeper comes to its slot. How
much longer depends on what else was put and when; it is less than four hundredths of the
time to live, and the rest that is left over when the time to live is divided by a hundred
(`Sweeper.Steady.young`). One hundredth would not do (`counted_after_hundredth`): the waits
of the sweeper add up. At the time to live at which nothing is swept, there is no bound.

Key definitions: `Registry.lastPut?`, `Registry.putWithin`, `Registry.Dated`, `Registry.Aged`.
Key theorems: `Registry.Aged.step`, `Registry.run_aged`,
`Registry.time_to_live_from_last_put`, `Registry.counted_after_hundredth`.
-/
import PaymentGateway.Proofs.Registry.Run
import PaymentGateway.Proofs.Registry.Sweeping
import Mathlib.Data.List.Dedup
import Mathlib.Data.List.Induction

namespace PaymentGateway
namespace Registry

open Sweeper (Steady Swept spared mem_spared)

/-! ### The last put under an id -/

/-- The time that passes in an operation. -/
def Op.elapsed : Op → Nat
  | .advance ns => ns
  | _ => 0

/-- The time that passes in a list of operations. -/
def elapsed : List Op → Nat
  | [] => 0
  | op :: ops => op.elapsed + elapsed ops

/-- The record put last under an id, and how long ago that was. -/
def lastPut? (id : String) : List Op → Option (Record × Nat)
  | [] => none
  | op :: ops => (lastPut? id ops).or
      ((op.written?.filter (·.id = id)).map fun rec => (rec, elapsed ops))

theorem elapsed_snoc (op : Op) : ∀ ops : List Op, elapsed (ops ++ [op]) = elapsed ops + op.elapsed
  | [] => by simp [elapsed]
  | first :: ops => by
    have ih := elapsed_snoc op ops
    simp only [List.cons_append, elapsed, ih]
    omega

theorem lastPut?_snoc (id : String) (op : Op) : ∀ ops : List Op, lastPut? id (ops ++ [op]) =
    ((op.written?.filter (·.id = id)).map fun rec => (rec, 0)).or
      ((lastPut? id ops).map fun x => (x.1, x.2 + op.elapsed))
  | [] => by simp [lastPut?, elapsed]
  | first :: ops => by
    have ih := lastPut?_snoc id op ops
    simp only [List.cons_append, lastPut?, ih, elapsed_snoc, Option.or_assoc, Option.map_or,
      Option.map_map]
    rfl

theorem lastPut?_put (id : String) (ops : List Op) (key status secret : String) :
    lastPut? id (ops ++ [.put key status secret]) =
      if id = key then some (⟨key, status, secret⟩, 0) else lastPut? id ops := by
  rw [lastPut?_snoc]
  by_cases hid : id = key
  · simp [Op.written?, hid]
  · have hother : ¬ key = id := fun h => hid h.symm
    simp [Op.written?, Op.elapsed, Option.filter_some, hid, hother]

theorem lastPut?_advance (id : String) (ops : List Op) (ns : Nat) :
    lastPut? id (ops ++ [.advance ns]) = (lastPut? id ops).map fun x => (x.1, x.2 + ns) := by
  rw [lastPut?_snoc]
  rfl

/-- An operation that neither puts nor waits makes no difference. -/
theorem lastPut?_still (id : String) (ops : List Op) {op : Op} (hwritten : op.written? = none)
    (helapsed : op.elapsed = 0) : lastPut? id (ops ++ [op]) = lastPut? id ops := by
  rw [lastPut?_snoc, hwritten, helapsed]
  simp

/-! ### What is held, and since when -/

/-- **The entries held are the last puts**, put when they say they were, and what was put and
is not held any more was put as long ago as its time to live. -/
structure Dated (ops : List Op) (r : Registry) : Prop where
  held : ∀ id e, r.held? id = some e →
    ∃ age, lastPut? id ops = some (e.record, age) ∧ e.putAt + age = r.now
  missing : ∀ id rec age, r.held? id = none → lastPut? id ops = some (rec, age) → r.ttl ≤ age

namespace Dated

variable {ops : List Op} {r after : Registry}

/-- An operation that neither puts nor waits, and changes no entry. -/
theorem still (h : Dated ops r) {op : Op} (hwritten : op.written? = none)
    (helapsed : op.elapsed = 0) (hheld : ∀ id, after.held? id = r.held? id)
    (httl : after.ttl = r.ttl) (hnow : after.now = r.now) : Dated (ops ++ [op]) after where
  held id e he := by
    rw [lastPut?_still id ops hwritten helapsed, hnow]
    exact h.held id e (hheld id ▸ he)
  missing id rec age hnone hlast := by
    rw [lastPut?_still id ops hwritten helapsed] at hlast
    rw [httl]
    exact h.missing id rec age (hheld id ▸ hnone) hlast

theorem put (h : Dated ops r) (hc : Coherent r.tables) (hcap : r.capacity = 0)
    (key status secret : String) :
    Dated (ops ++ [.put key status secret]) (r.put key status secret) := by
  have hroom : ¬ r.Full := fun hf => hf.1 hcap
  have hheld : ∀ id, (r.put key status secret).held? id =
      if id = key then some (r.newEntry key status secret) else r.held? id :=
    held?_put hc (.inr hroom) status secret
  obtain ⟨-, httl, hnow⟩ := put_bounds r key status secret
  refine ⟨fun id e he => ?_, fun id rec age hnone hlast => ?_⟩
  · rw [hheld] at he
    rw [lastPut?_put, hnow]
    by_cases hid : id = key
    · rw [if_pos hid] at he ⊢
      cases he
      exact ⟨0, rfl, rfl⟩
    · rw [if_neg hid] at he ⊢
      exact h.held id e he
  · rw [hheld] at hnone
    rw [lastPut?_put] at hlast
    rw [httl]
    by_cases hid : id = key
    · rw [if_pos hid] at hnone
      cases hnone
    · rw [if_neg hid] at hnone hlast
      exact h.missing id rec age hnone hlast

/-- Time passes, and entries leave whose time is up. -/
theorem advance (h : Dated ops r) (hn : r.KeysNodup) {ns : Nat} (hnow : after.now = r.now + ns)
    (httl : after.ttl = r.ttl) (hkept : after.entries.Sublist r.entries)
    (hgone : ∀ e ∈ r.entries, e ∉ after.entries → e.putAt + r.ttl ≤ after.now) :
    Dated (ops ++ [.advance ns]) after := by
  have hn' : after.KeysNodup := hn.sublist (hkept.map _)
  refine ⟨fun id e he => ?_, fun id rec age hnone hlast => ?_⟩
  · obtain ⟨hmem, hkey⟩ := (held?_eq_some_iff hn').mp he
    obtain ⟨age, hlast, hage⟩ :=
      h.held id e ((held?_eq_some_iff hn).mpr ⟨hkept.subset hmem, hkey⟩)
    refine ⟨age + ns, ?_, by omega⟩
    rw [lastPut?_advance, hlast]
    rfl
  · rw [lastPut?_advance] at hlast
    obtain ⟨⟨old, before⟩, hbefore, hpair⟩ := Option.map_eq_some_iff.mp hlast
    have hage : before + ns = age := congrArg Prod.snd hpair
    rw [httl]
    cases hheld : r.held? id with
    | none =>
      have hold := h.missing id old before hheld hbefore
      omega
    | some e =>
      obtain ⟨since, hsince, hput⟩ := h.held id e hheld
      obtain ⟨hmem, hkey⟩ := (held?_eq_some_iff hn).mp hheld
      have hleft : e ∉ after.entries := fun hin => by
        rw [(held?_eq_some_iff hn').mpr ⟨hin, hkey⟩] at hnone
        cases hnone
      have hexpired := hgone e hmem hleft
      have hsame : before = since := congrArg Prod.snd (Option.some.inj (hbefore.symm.trans hsince))
      omega

end Dated

/-! ### Runs -/

/-- **A registry without a capacity and with a time to live, after some operations**: its
entries are the last puts, and its sweeper is steady, unless nothing is swept. -/
structure Aged (ttl : Nat) (ops : List Op) (r : Registry) : Prop where
  built : ∃ h, Built h r.tables
  bounds : r.capacity = 0 ∧ r.ttl = ttl
  dated : Dated ops r
  steady : ttl ≠ unsweptTtl → Steady ttl r.now r.sweeper r.entries

section Runs

variable {ttl : Nat} {ops : List Op} {r : Registry}

theorem Aged.coherent (h : Aged ttl ops r) : Coherent r.tables := by
  obtain ⟨_, hb⟩ := h.built
  exact hb.coherent

/-- What a wait does to a registry that is swept. -/
theorem advance_sweep (r : Registry) (ns : Nat) (hne : r.ttl ≠ 0) (hswept : r.ttl ≠ unsweptTtl) :
    (r.advance ns).entries = spared r.entries (r.sweeper.run (r.now + ns)).2 ∧
      (r.advance ns).now = r.now + ns ∧
      (r.advance ns).sweeper = (r.sweeper.run (r.now + ns)).1 := by
  have hadvance : r.advance ns = sweep { r with now := r.now + ns } := by
    simp only [Registry.advance, if_neg hne, if_neg hswept]
  rw [hadvance]
  obtain ⟨hentries, hnow⟩ := forgetAll_held
    (r.entries.filter fun e => (r.sweeper.run (r.now + ns)).2.contains e.slot)
    { r with
      now := r.now + ns
      sweeper := (r.sweeper.run (r.now + ns)).1
      entries := spared r.entries (r.sweeper.run (r.now + ns)).2 }
  exact ⟨hentries, hnow, forgetAll_sweeper _ _⟩

theorem advance_unswept (r : Registry) (ns : Nat) (hunswept : r.ttl = unsweptTtl) :
    r.advance ns = { r with now := r.now + ns } := by
  have hne : r.ttl ≠ 0 := by
    rw [hunswept]
    decide
  rw [Registry.advance, if_neg hne, if_pos hunswept]

theorem Aged.advance (h : Aged ttl ops r) (hpos : ttl ≠ 0) (ns : Nat) :
    Dated (ops ++ [.advance ns]) (r.advance ns) ∧
      (ttl ≠ unsweptTtl → Steady ttl (r.advance ns).now (r.advance ns).sweeper
        (r.advance ns).entries) := by
  obtain ⟨-, httl⟩ := h.bounds
  have hn := h.coherent.keys
  have httl' := (advance_bounds r ns).2
  by_cases hunswept : ttl = unsweptTtl
  · refine ⟨?_, fun hne => absurd hunswept hne⟩
    have hsame := advance_unswept r ns (httl.trans hunswept)
    have hentries : (r.advance ns).entries = r.entries := by rw [hsame]
    refine h.dated.advance hn (by rw [hsame]) httl' (hentries ▸ List.Sublist.refl _)
      fun e he hleft => ?_
    exact absurd (hentries ▸ he) hleft
  · have hsteady := h.steady hunswept
    obtain ⟨hentries, hnow, hsweeper⟩ := advance_sweep r ns (httl ▸ hpos) (httl ▸ hunswept)
    have hswept : Swept ttl (r.now + ns) r.entries (r.sweeper.run (r.now + ns)) :=
      Sweeper.run_swept hsteady (Nat.le_add_right _ _)
    refine ⟨h.dated.advance hn hnow httl' ?_ fun e he hleft => ?_, fun _ => ?_⟩
    · rw [hentries]
      exact List.filter_sublist
    · rw [hentries, mem_spared, not_and, not_not] at hleft
      rw [hnow, httl]
      exact hswept.gone e he (hleft he)
    · rw [hentries, hnow, hsweeper]
      exact hswept.steady

/-- **One operation.** A put is noted by the sweeper and a lookup leaves entries and sweeper
alone; what leaves, leaves while time passes. -/
theorem Aged.step (h : Aged ttl ops r) (hpos : ttl ≠ 0) (op : Op) :
    Aged ttl (ops ++ [op]) (r.step op) := by
  have hc := h.coherent
  obtain ⟨hcap, httl⟩ := h.bounds
  have hbuilt : ∃ h, Built h (r.step op).tables := by
    obtain ⟨_, hb⟩ := h.built
    exact ⟨_, step_built hb op⟩
  have hbounds : (r.step op).capacity = 0 ∧ (r.step op).ttl = ttl :=
    ⟨(step_bounds r op).1.trans hcap, (step_bounds r op).2.trans httl⟩
  cases op with
  | put key status secret =>
    refine ⟨hbuilt, hbounds, h.dated.put hc hcap key status secret, fun hne => ?_⟩
    obtain ⟨rest, hentries, hrest⟩ := put_entries hc key status secret
    obtain ⟨-, -, hnow⟩ := put_bounds r key status secret
    have hsweeper := put_sweeper r key status secret
    rw [httl] at hsweeper
    show Steady ttl (r.put key status secret).now (r.put key status secret).sweeper
      (r.put key status secret).entries
    rw [hentries, hnow, hsweeper]
    exact (h.steady hne).note ⟨rfl, rfl⟩ hrest
  | find secret =>
    obtain ⟨-, httl', hnow⟩ := find_bounds r secret
    refine ⟨hbuilt, hbounds, h.dated.still rfl rfl (held?_find hc.keys secret) httl' hnow,
      fun hne => ?_⟩
    show Steady ttl (r.find secret).2.now (r.find secret).2.sweeper (r.find secret).2.entries
    rw [hnow, find_sweeper]
    exact (h.steady hne).mono (find_entries hc.keys secret).symm.subset
  | get id => exact ⟨hbuilt, hbounds, h.dated.still rfl rfl (fun _ => rfl) rfl rfl, h.steady⟩
  | advance ns =>
    obtain ⟨hdated, hsteady⟩ := h.advance hpos ns
    exact ⟨hbuilt, hbounds, hdated, hsteady⟩

end Runs

/-- **Every run** of a registry without a capacity and with a time to live. -/
theorem run_aged {capacity ttl : Int} (hcap : capacity ≤ 0) (httl : 100 ≤ ttl) (ops : List Op) :
    Aged ttl.toNat ops ((new capacity ttl).run ops) := by
  have hpos : 100 ≤ ttl.toNat := by omega
  induction ops using List.reverseRecOn with
  | nil =>
    refine ⟨⟨[], .empty⟩, ⟨Int.toNat_of_nonpos hcap, rfl⟩, ⟨nofun, nofun⟩, fun _ => ?_⟩
    exact Steady.start hpos
  | append_singleton ops op ih =>
    rw [run_append]
    exact ih.step (by omega) op

/-! ### What is visible, and what is counted -/

namespace Aged

variable {ttl : Nat} {ops : List Op} {r : Registry} {id : String} {rec : Record} {age : Nat}

theorem get?_unput (h : Aged ttl ops r) (hlast : lastPut? id ops = none) : r.get? id = none := by
  cases hheld : r.held? id with
  | none => simp [get?, visible?, hheld]
  | some e =>
    obtain ⟨age, hput, -⟩ := h.dated.held id e hheld
    rw [hlast] at hput
    cases hput

/-- What was put less than its time to live ago is visible. -/
theorem get?_young (h : Aged ttl ops r) (hlast : lastPut? id ops = some (rec, age))
    (hage : age < ttl) : r.get? id = some rec := by
  obtain ⟨-, httl⟩ := h.bounds
  cases hheld : r.held? id with
  | none =>
    have hold := h.dated.missing id rec age hheld hlast
    omega
  | some e =>
    obtain ⟨since, hput, hnow⟩ := h.dated.held id e hheld
    obtain ⟨hrec, hsince⟩ : rec = e.record ∧ age = since :=
      Prod.mk.inj (Option.some.inj (hlast.symm.trans hput))
    have hlive : r.expired e = false := by
      have hbefore : ¬ e.putAt + r.ttl < r.now := by omega
      simp [expired, hbefore]
    rw [get?, visible?_eq_some_iff.mpr ⟨hheld, hlive⟩, hrec]
    rfl

/-- What was put longer ago is not, even if it is held. -/
theorem get?_old (h : Aged ttl ops r) (hpos : ttl ≠ 0) (hlast : lastPut? id ops = some (rec, age))
    (hage : ttl < age) : r.get? id = none := by
  obtain ⟨-, httl⟩ := h.bounds
  cases hheld : r.held? id with
  | none => simp [get?, visible?, hheld]
  | some e =>
    obtain ⟨since, hput, hnow⟩ := h.dated.held id e hheld
    obtain ⟨-, hsince⟩ : rec = e.record ∧ age = since :=
      Prod.mk.inj (Option.some.inj (hlast.symm.trans hput))
    have hexpired : r.expired e = true := by
      have hafter : e.putAt + r.ttl < r.now := by omega
      have hne : r.ttl ≠ 0 := by omega
      simp [expired, hafter, hne]
    simp [get?, visible?, hheld, hexpired]

/-- What is held was put less than four periods before its time to live ago, and the rest. -/
theorem entry_young (h : Aged ttl ops r) (hswept : ttl ≠ unsweptTtl) {e : Entry}
    (he : e ∈ r.entries) : ∃ rec age, lastPut? e.key ops = some (rec, age) ∧
      age < ttl + 4 * (ttl / 100) + ttl % 100 := by
  obtain ⟨age, hput, hnow⟩ :=
    h.dated.held e.key e ((held?_eq_some_iff h.coherent.keys).mpr ⟨he, rfl⟩)
  have hyoung := (h.steady hswept).young he
  exact ⟨e.record, age, hput, by omega⟩

end Aged

/-- What is visible is counted. -/
theorem visible_le_size {r : Registry} {ids : List String} (hn : ids.Nodup)
    (h : ∀ id ∈ ids, (r.get? id).isSome) : ids.length ≤ r.size := by
  have hsub : ids ⊆ r.entries.map (·.key) := by
    intro id hid
    obtain ⟨rec, hrec⟩ := Option.isSome_iff_exists.mp (h id hid)
    obtain ⟨e, he⟩ := Option.isSome_iff_exists.mp (held?_isSome_of_get? hrec)
    have hkey : e.key = id := by simpa using List.find?_some he
    exact hkey ▸ List.mem_map_of_mem (List.mem_of_find?_eq_some he)
  have hle := (hn.subperm hsub).length_le
  rwa [List.length_map] at hle

/-- The ids that were put less than a time ago, each once. -/
def putWithin (ops : List Op) (limit : Nat) : List String :=
  ((written ops).map (·.id)).dedup.filter fun id => (lastPut? id ops).any (·.2 < limit)

theorem mem_written_of_lastPut? {id : String} {x : Record × Nat} : ∀ {ops : List Op},
    lastPut? id ops = some x → id ∈ (written ops).map (·.id)
  | [], h => by cases h
  | op :: ops, h => by
    rcases Option.or_eq_some_iff.mp h with h | ⟨-, h⟩
    · obtain ⟨rec, hrec, hid⟩ := List.mem_map.mp (mem_written_of_lastPut? h)
      refine List.mem_map.mpr ⟨rec, ?_, hid⟩
      obtain ⟨op', hop, hwritten⟩ := List.mem_filterMap.mp hrec
      exact List.mem_filterMap.mpr ⟨op', List.mem_cons_of_mem _ hop, hwritten⟩
    · obtain ⟨rec, hrec, -⟩ := Option.map_eq_some_iff.mp h
      obtain ⟨hwritten, hid⟩ := Option.filter_eq_some_iff.mp hrec
      exact List.mem_map.mpr
        ⟨rec, List.mem_filterMap.mpr ⟨op, List.mem_cons_self, hwritten⟩, by simpa using hid⟩

/-- If all that is held was put less than a time ago, no more is counted than was. -/
theorem size_le_putWithin {ops : List Op} {r : Registry} (hn : r.KeysNodup) {limit : Nat}
    (h : ∀ e ∈ r.entries, ∃ rec age, lastPut? e.key ops = some (rec, age) ∧ age < limit) :
    r.size ≤ (putWithin ops limit).length := by
  have hsub : r.entries.map (·.key) ⊆ putWithin ops limit := by
    intro id hid
    obtain ⟨e, he, rfl⟩ := List.mem_map.mp hid
    obtain ⟨rec, age, hlast, hage⟩ := h e he
    refine List.mem_filter.mpr ⟨List.mem_dedup.mpr (mem_written_of_lastPut? hlast), ?_⟩
    simpa [hlast] using hage
  have hle := (hn.subperm hsub).length_le
  rwa [List.length_map] at hle

/-- **Time to live counts from the last put**, in every registry without a capacity and with a
time to live of a hundred nanoseconds or more, after every run of puts, lookups and waits.
What is looked up by id is the record put last under it, if that was less than the time to
live ago, and nothing if it was longer ago or never. As many records are counted as are
visible, or more; but none is counted that was put as long ago as the time to live, four
hundredths of it and the rest, unless nothing is swept at all. -/
theorem time_to_live_from_last_put (capacity ttl : Int) (hcap : capacity ≤ 0) (httl : 100 ≤ ttl)
    (ops : List Op) :
    let r := (new capacity ttl).run ops
    let T := ttl.toNat
    (∀ id, lastPut? id ops = none → r.get? id = none) ∧
    (∀ id rec age, lastPut? id ops = some (rec, age) →
      (age < T → r.get? id = some rec) ∧ (T < age → r.get? id = none)) ∧
    (∀ ids : List String, ids.Nodup → (∀ id ∈ ids, (r.get? id).isSome) →
      ids.length ≤ r.size) ∧
    (T ≠ unsweptTtl →
      (∀ e ∈ r.entries, ∃ rec age, lastPut? e.key ops = some (rec, age) ∧
        age < T + 4 * (T / 100) + T % 100) ∧
      r.size ≤ (putWithin ops (T + 4 * (T / 100) + T % 100)).length) := by
  intro r T
  have haged : Aged T ops r := run_aged hcap httl ops
  have hpos : T ≠ 0 := by omega
  refine ⟨fun id hlast => haged.get?_unput hlast, fun id rec age hlast =>
    ⟨haged.get?_young hlast, haged.get?_old hpos hlast⟩, fun ids hn hvisible =>
    visible_le_size hn hvisible, fun hswept => ?_⟩
  have hyoung := fun e he => haged.entry_young (e := e) hswept he
  exact ⟨hyoung, size_le_putWithin haged.coherent.keys hyoung⟩

/-- A record that is put again is visible for its time to live from then on, and the lookups
of the other do not prolong it. That one is still counted, 22 nanoseconds after its time. -/
theorem time_to_live_from_last_put_renewed :
    let ops : List Op := [.put "z" "x" "sz", .put "b" "x" "sb", .advance 199, .put "a" "x" "sa",
      .advance 42, .put "b" "y" "sb", .find "sa", .get "a", .advance 230]
    let r := (new 0 250).run ops
    lastPut? "b" ops = some (⟨"b", "y", "sb"⟩, 230) ∧ r.get? "b" = some ⟨"b", "y", "sb"⟩ ∧
      lastPut? "a" ops = some (⟨"a", "x", "sa"⟩, 272) ∧ r.get? "a" = none ∧ r.size = 2 ∧
      ∀ e ∈ r.entries, ∃ rec age, lastPut? e.key ops = some (rec, age) ∧ age < 308 := by
  intro ops r
  obtain ⟨-, hvisible, -, hcounted⟩ :=
    time_to_live_from_last_put 0 250 (by decide) (by decide) ops
  have hb : lastPut? "b" ops = some (⟨"b", "y", "sb"⟩, 230) := by decide +kernel
  have ha : lastPut? "a" ops = some (⟨"a", "x", "sa"⟩, 272) := by decide +kernel
  exact ⟨hb, (hvisible "b" _ _ hb).1 (by decide), ha, (hvisible "a" _ _ ha).2 (by decide),
    by decide +kernel, (hcounted (by decide)).1⟩

/-- More is counted at the end than was put less than the time to live and a hundredth of it
ago, at an instant that is neither a tick nor an expiry. -/
def Overcounts (ttl : Int) (ops : List Op) : Prop :=
  let r := (new 0 ttl).run ops
  let T := ttl.toNat
  r.now % (T / 100) ≠ 0 ∧ (∀ rec ∈ written ops, (lastPut? rec.id ops).map Prod.snd ≠ some T) ∧
    (putWithin ops (T + T / 100)).length < r.size

instance (ttl : Int) (ops : List Op) : Decidable (Overcounts ttl ops) :=
  inferInstanceAs (Decidable (_ ∧ _ ∧ _))

/-- **A hundredth is not enough.** One record is held up by another that is put 42 nanoseconds
later, at a time to live of 250. At a time to live of 1000 the waits of the sweeper add up
over three rounds. At the time to live of ten years nothing is swept. -/
theorem counted_after_hundredth :
    Overcounts 250 [.put "z" "x" "sz", .advance 199, .put "a" "x" "sa", .advance 42,
      .put "b" "x" "sb", .advance 230] ∧
    Overcounts 1000 [.advance 9, .put "a" "x" "sa", .advance 982, .put "b" "x" "sb", .advance 17,
      .put "c" "x" "sc", .advance 973, .put "d" "x" "sd", .advance 26, .put "e" "x" "se",
      .advance 964, .put "f" "x" "sf", .advance 35, .put "g" "x" "sg", .advance 997] ∧
    Overcounts 315360000000000000 [.advance 1, .put "a" "x" "sa", .advance 630720000000000000] := by
  decide +kernel

end Registry
end PaymentGateway
