/-
# How late the sweeper is

Every put goes to the slot behind the cursor, which the cursor reaches after 99 more
slots. If each tick took the cursor one slot further, a slot would be visited before
anything in it has expired, the sweeper would wait for the last expiry there, and nothing
would be held for longer than a period after its time. But ticks that come during a wait
are lost, all but one. So a slot may be written to for longer than a period, it may be
reached only after its last expiry, and the lags add up.

They do not add up without bound, because a wait ends at an expiry and not at a tick. The
invariant (`Timely`) compares the expiries in a slot with the time at which the cursor
would reach it without a further wait, which is the next tick and the slot's `reach`. The
last of them is not much later than that (`behind`) and none is much earlier (`ahead`),
also not if the cursor waits at a slot before (`apart`). While the sweeper waits, a period
more is allowed for, since the cursor moves at the end of the wait without a tick. The
invariant is kept by a put (`Timely.note`), by the ticks at slots that hold nothing
(`Timely.stride`), by the tick or the catching up that leads to a visit (`Timely.tick`)
and when a slot is emptied (`Timely.empty`); every step of the sweeper is made of these
(`visit_swept`, `step?_swept`).

So up to any time the sweeper empties only slots in which all has expired (`Swept.gone`),
and what is left was put less than the time to live and four periods ago, or a little more
where the time to live is no multiple of the period (`Steady.young`).

Key definitions: `Sweeper.reach`, `Sweeper.Timely`, `Sweeper.Steady`, `Sweeper.Swept`.
Key theorems: `Sweeper.visit_swept`, `Sweeper.step?_swept`, `Sweeper.run_swept`,
`Sweeper.Steady.note`, `Sweeper.Steady.young`.
-/
import PaymentGateway.Registry

namespace PaymentGateway
namespace Sweeper

variable {w moved : Sweeper} {slot n : Nat}

/-! ### The way to a slot -/

/-- The time that the ticks from the cursor to a slot take. -/
def reach (w : Sweeper) (slot : Nat) : Nat := w.distance slot * w.period

theorem distance_lt (w : Sweeper) (slot : Nat) : w.distance slot < 100 :=
  Nat.mod_lt _ (by decide)

theorem distance_cursor (w : Sweeper) : w.distance w.cursor = 0 := by
  unfold distance slotCount
  omega

theorem eq_cursor_of_distance (hcursor : w.cursor < slotCount) (hslot : slot < slotCount)
    (h : w.distance slot = 0) : slot = w.cursor := by
  unfold distance slotCount at *
  omega

theorem distance_pos (hcursor : w.cursor < slotCount) (hslot : slot < slotCount)
    (hne : slot ≠ w.cursor) : 1 ≤ w.distance slot :=
  Nat.pos_of_ne_zero fun hzero => hne (eq_cursor_of_distance hcursor hslot hzero)

theorem reach_cursor (w : Sweeper) : w.reach w.cursor = 0 := by
  rw [reach, distance_cursor, Nat.zero_mul]

/-- What is written goes to the slot that is reached last. -/
theorem distance_writeSlot (hcursor : w.cursor < slotCount) : w.distance w.writeSlot = 99 := by
  unfold distance writeSlot slotCount at *
  omega

theorem writeSlot_ne_cursor (hcursor : w.cursor < slotCount) : w.cursor ≠ w.writeSlot := by
  intro h
  have hfar := distance_writeSlot hcursor
  rw [← h, distance_cursor] at hfar
  cases hfar

/-- When the cursor moves on, but not beyond a slot, the slot is as much nearer. -/
theorem distance_moved (hcursor : w.cursor < slotCount) (hslot : slot < slotCount)
    (hmoved : moved.cursor = (w.cursor + n) % slotCount) (h : n ≤ w.distance slot) :
    moved.distance slot + n = w.distance slot := by
  unfold distance slotCount at *
  omega

theorem reach_moved (hcursor : w.cursor < slotCount) (hslot : slot < slotCount)
    (hmoved : moved.cursor = (w.cursor + n) % slotCount) (hperiod : moved.period = w.period)
    (h : n ≤ w.distance slot) : moved.reach slot + n * w.period = w.reach slot := by
  rw [reach, reach, hperiod, ← Nat.add_mul, distance_moved hcursor hslot hmoved h]

/-! ### What was written to the slots -/

theorem mem_due_of_dueAt? {x : Nat} (h : w.dueAt? slot = some x) : (slot, x) ∈ w.due := by
  obtain ⟨before, rest, hdue, -⟩ := List.lookup_eq_some_iff.mp h
  rw [hdue]
  exact List.mem_append_right _ List.mem_cons_self

theorem dueAt?_isSome {d : Nat × Nat} (h : d ∈ w.due) : (w.dueAt? d.1).isSome :=
  List.lookup_isSome_iff.mpr ⟨d, h, beq_self_eq_true _⟩

theorem mem_dueBut {d : Nat × Nat} : d ∈ w.dueBut slot ↔ d ∈ w.due ∧ d.1 ≠ slot := by
  simp [dueBut]

theorem lookup_dueBut {other : Nat} (h : other ≠ slot) :
    (w.dueBut slot).lookup other = w.dueAt? other := by
  unfold dueBut dueAt?
  induction w.due with
  | nil => rfl
  | cons d due ih =>
    obtain ⟨s, x⟩ := d
    by_cases hs : s = slot
    · have hne : (other == s) = false := by simpa [hs] using h
      rw [List.filter_cons_of_neg (by simpa using hs), List.lookup_cons, hne, ih]
    · rw [List.filter_cons_of_pos (by simpa using hs), List.lookup_cons, List.lookup_cons, ih]

section Note

variable {expiry : Nat}

/-- A put that expires last of all becomes the last expiry of its slot. -/
theorem note_due (h : ∀ d ∈ w.due, d.2 ≤ expiry) :
    (w.note expiry).due = (w.writeSlot, expiry) :: w.dueBut w.writeSlot := by
  have hmax : max expiry ((w.dueAt? w.writeSlot).getD 0) = expiry := by
    cases hold : w.dueAt? w.writeSlot with
    | none => exact Nat.max_eq_left (Nat.zero_le _)
    | some x => exact Nat.max_eq_left (h _ (mem_due_of_dueAt? hold))
  rw [note, hmax]

theorem forall_due_note (h : ∀ d ∈ w.due, d.2 ≤ expiry) {P : Nat × Nat → Prop}
    (hnew : P (w.writeSlot, expiry)) (hold : ∀ d ∈ w.due, P d) :
    ∀ d ∈ (w.note expiry).due, P d := by
  rw [note_due h]
  exact List.forall_mem_cons.mpr ⟨hnew, fun d hd => hold d (mem_dueBut.mp hd).1⟩

theorem dueAt?_note (h : ∀ d ∈ w.due, d.2 ≤ expiry) (slot : Nat) : (w.note expiry).dueAt? slot =
    if slot = w.writeSlot then some expiry else w.dueAt? slot := by
  rw [dueAt?, note_due h, List.lookup_cons]
  by_cases hs : slot = w.writeSlot
  · rw [if_pos hs, hs, beq_self_eq_true]
  · rw [if_neg hs, beq_false_of_ne hs, lookup_dueBut hs]

end Note

/-! ### The slots in time -/

variable {ttl lag now later : Nat} {es kept : List Entry}

/-- **The sweeper is in time**, for the entries `es`. Every entry is in a slot that knows its
expiry (`covered`). The cursor comes to a slot not much before the last expiry there
(`behind`), and not much after the expiry of an entry in it (`ahead`), nor does it when it
has waited for the last expiry of a slot before (`apart`). A `lag` of one period is allowed
for, and of two while the sweeper waits or is about to visit a slot. -/
structure Timely (ttl lag now : Nat) (w : Sweeper) (es : List Entry) : Prop where
  paced : 0 < w.period ∧ w.period = ttl / 100
  cursor : w.cursor < slotCount
  slots : ∀ d ∈ w.due, d.1 < slotCount
  near : w.nextTick ≤ now + w.period
  written : ∀ d ∈ w.due, d.2 ≤ now + ttl
  behind : ∀ d ∈ w.due, w.distance d.1 ≤ 96 + lag →
    d.2 + (96 + lag) * w.period < w.nextTick + ttl + w.reach d.1
  apart : ∀ e ∈ es, ∀ d ∈ w.due, w.distance d.1 < w.distance e.slot →
    d.2 + w.reach e.slot < e.putAt + ttl + 3 * w.period + w.reach d.1
  covered : ∀ e ∈ es, ∃ x, w.dueAt? e.slot = some x ∧ e.putAt + ttl ≤ x ∧
    x + 96 * w.period < e.putAt + 2 * ttl
  ahead : ∀ e ∈ es, w.nextTick + w.reach e.slot < e.putAt + ttl + (1 + lag) * w.period

namespace Timely

theorem slot_lt (h : Timely ttl lag now w es) {e : Entry} (he : e ∈ es) : e.slot < slotCount := by
  obtain ⟨x, hx, -⟩ := h.covered e he
  exact h.slots _ (mem_due_of_dueAt? hx)

theorem mono (h : Timely ttl lag now w es) (hlater : now ≤ later) (hkept : kept ⊆ es) :
    Timely ttl lag later w kept where
  paced := h.paced
  cursor := h.cursor
  slots := h.slots
  near := Nat.le_trans h.near (Nat.add_le_add_right hlater _)
  written d hd := Nat.le_trans (h.written d hd) (Nat.add_le_add_right hlater _)
  behind := h.behind
  apart e he := h.apart e (hkept he)
  covered e he := h.covered e (hkept he)
  ahead e he := h.ahead e (hkept he)

/-- The slot at the cursor is emptied: every other slot is a period nearer. -/
theorem empty (h : Timely ttl 2 now w es) (hkept : ∀ e ∈ kept, e ∈ es ∧ e.slot ≠ w.cursor) :
    Timely ttl 1 now w.empty kept := by
  have hmoved : w.empty.cursor = (w.cursor + 1) % slotCount := rfl
  have hdistance : ∀ {slot}, slot < slotCount → slot ≠ w.cursor →
      w.empty.distance slot + 1 = w.distance slot ∧
        w.empty.reach slot + w.period = w.reach slot := by
    intro slot hslot hne
    have hfar : 1 ≤ w.distance slot := distance_pos h.cursor hslot hne
    have hreach := reach_moved h.cursor hslot hmoved rfl hfar
    exact ⟨distance_moved h.cursor hslot hmoved hfar, by omega⟩
  have hdue : ∀ d ∈ w.empty.due, d ∈ w.due ∧ d.1 ≠ w.cursor := fun d hd => mem_dueBut.mp hd
  have hperiod : w.empty.period = w.period := rfl
  have htick : w.empty.nextTick = w.nextTick := rfl
  refine ⟨h.paced, Nat.mod_lt _ (by decide), fun d hd => h.slots d (hdue d hd).1, h.near,
    fun d hd => h.written d (hdue d hd).1, fun d hd hnear => ?_, fun e he d hd hlt => ?_,
    fun e he => ?_, fun e he => ?_⟩
  · obtain ⟨hd, hne⟩ := hdue d hd
    obtain ⟨hstep, hreach⟩ := hdistance (h.slots d hd) hne
    have hbehind := h.behind d hd (by omega)
    omega
  · obtain ⟨hd, hne⟩ := hdue d hd
    obtain ⟨he, hslot⟩ := hkept e he
    obtain ⟨hstep, hreach⟩ := hdistance (h.slots d hd) hne
    obtain ⟨hstep', hreach'⟩ := hdistance (h.slot_lt he) hslot
    have hapart := h.apart e he d hd (by omega)
    omega
  · obtain ⟨he, hslot⟩ := hkept e he
    obtain ⟨x, hx, hbound⟩ := h.covered e he
    exact ⟨x, (lookup_dueBut hslot).trans hx, hbound⟩
  · obtain ⟨he, hslot⟩ := hkept e he
    obtain ⟨-, hreach⟩ := hdistance (h.slot_lt he) hslot
    have hahead := h.ahead e he
    omega

/-- The next tick moves on, by a period at least, to shortly after a time. -/
theorem tick (h : Timely ttl 1 now w es) {tick : Nat} (hlater : now ≤ later)
    (htick : later < tick) (hnear : tick ≤ later + w.period) (hmoved : w.nextTick + w.period ≤ tick)
    (hahead : ∀ e ∈ es, tick + w.reach e.slot < e.putAt + ttl + 3 * w.period) :
    Timely ttl 2 later { w with nextTick := tick } es where
  paced := h.paced
  cursor := h.cursor
  slots := h.slots
  near := hnear
  written := (h.mono hlater (List.Subset.refl es)).written
  behind d hd hle := by
    show d.2 + (96 + 2) * w.period < tick + ttl + w.reach d.1
    have hdistance : w.distance d.1 ≤ 98 := hle
    by_cases h97 : w.distance d.1 ≤ 97
    · have hbehind := h.behind d hd h97
      omega
    · -- a slot so far off was written to by now
      have h98 : w.distance d.1 = 98 := by omega
      have hwritten := h.written d hd
      rw [reach, h98]
      omega
  apart := h.apart
  covered := h.covered
  ahead e he := by
    have hbound := hahead e he
    show tick + w.reach e.slot < e.putAt + ttl + (1 + 2) * w.period
    omega

/-- Ticks at slots that hold nothing change nothing but the cursor. -/
theorem stride (h : Timely ttl 1 now w es) (hlater : now ≤ later) (htick : now < w.nextTick)
    (hn : ∀ d ∈ w.due, n ≤ w.distance d.1)
    (hnear : w.nextTick + n * w.period ≤ later + w.period) :
    Timely ttl 1 later (w.stride n) es := by
  have hmoved : (w.stride n).cursor = (w.cursor + n) % slotCount := rfl
  have hperiod : (w.stride n).period = w.period := rfl
  have hnext : (w.stride n).nextTick = w.nextTick + n * w.period := rfl
  have hdue : (w.stride n).due = w.due := rfl
  have hdistance : ∀ d ∈ w.due, (w.stride n).distance d.1 + n = w.distance d.1 ∧
      (w.stride n).reach d.1 + n * w.period = w.reach d.1 := fun d hd =>
    ⟨distance_moved h.cursor (h.slots d hd) hmoved (hn d hd),
      reach_moved h.cursor (h.slots d hd) hmoved rfl (hn d hd)⟩
  have hentry : ∀ e ∈ es, ∃ d ∈ w.due, d.1 = e.slot := fun e he => by
    obtain ⟨x, hx, -⟩ := h.covered e he
    exact ⟨_, mem_due_of_dueAt? hx, rfl⟩
  refine ⟨h.paced, Nat.mod_lt _ (by decide), h.slots, hnear,
    (h.mono hlater (List.Subset.refl es)).written, fun d hd hle => ?_, fun e he d hd hlt => ?_,
    h.covered, fun e he => ?_⟩
  · obtain ⟨hstep, hreach⟩ := hdistance d hd
    rw [hperiod, hnext]
    by_cases h97 : w.distance d.1 ≤ 97
    · have hbehind := h.behind d hd h97
      omega
    · have hwritten := h.written d hd
      have hfar : 98 * w.period ≤ w.reach d.1 := Nat.mul_le_mul_right _ (by omega)
      omega
  · obtain ⟨x, hx, hslot⟩ := hentry e he
    obtain ⟨hstep, hreach⟩ := hdistance d hd
    obtain ⟨hstep', hreach'⟩ := hdistance x hx
    rw [hslot] at hstep' hreach'
    have hapart := h.apart e he d hd (by omega)
    rw [hperiod]
    omega
  · obtain ⟨x, hx, hslot⟩ := hentry e he
    obtain ⟨-, hreach⟩ := hdistance x hx
    rw [hslot] at hreach
    have hahead := h.ahead e he
    rw [hperiod, hnext]
    omega

/-- **A put keeps the slots in time**, if it comes early enough for the entries that are in
its slot already. -/
theorem note (h : Timely ttl lag now w es) (hlag : lag = 1 ∨ lag = 2)
    (hearly : ∀ e ∈ es, e.slot = w.writeSlot → now + 96 * w.period < e.putAt + ttl) {new : Entry}
    (hnew : new.putAt = now ∧ new.slot = w.writeSlot) (hkept : kept ⊆ es) :
    Timely ttl lag now (w.note (now + ttl)) (new :: kept) := by
  obtain ⟨hputAt, hslot⟩ := hnew
  have hpaced := h.paced
  have hnear := h.near
  have hfar : w.distance w.writeSlot = 99 := distance_writeSlot h.cursor
  have hreach : w.reach new.slot = 99 * w.period := by rw [hslot, reach, hfar]
  have hdue : ∀ {P : Nat × Nat → Prop}, P (w.writeSlot, now + ttl) → (∀ d ∈ w.due, P d) →
      ∀ d ∈ (w.note (now + ttl)).due, P d := forall_due_note h.written
  have hdueAt := dueAt?_note h.written
  -- the slot that is written to is farther than `behind` looks, and before no other
  have hbeyond : ¬ w.distance w.writeSlot ≤ 96 + lag := by omega
  have hlast : ∀ slot, ¬ w.distance w.writeSlot < w.distance slot := by
    intro slot
    have hlimit := w.distance_lt slot
    omega
  have hapart : ∀ d ∈ w.due, w.distance d.1 < w.distance new.slot →
      d.2 + w.reach new.slot < new.putAt + ttl + 3 * w.period + w.reach d.1 := by
    intro d hd hlt
    rw [hslot, hfar] at hlt
    rw [hreach, hputAt]
    by_cases hle : w.distance d.1 ≤ 96 + lag
    · have hbehind := h.behind d hd hle
      rcases hlag with rfl | rfl <;> omega
    · have hwritten := h.written d hd
      have hfarther : 98 * w.period ≤ w.reach d.1 := Nat.mul_le_mul_right _ (by omega)
      omega
  have hcovered : ∀ e ∈ kept, ∃ x, (w.note (now + ttl)).dueAt? e.slot = some x ∧
      e.putAt + ttl ≤ x ∧ x + 96 * w.period < e.putAt + 2 * ttl := by
    intro e he
    obtain ⟨x, hx, hlow, hhigh⟩ := h.covered e (hkept he)
    rw [hdueAt]
    by_cases hs : e.slot = w.writeSlot
    · have hwritten := h.written _ (mem_due_of_dueAt? hx)
      have hbound := hearly e (hkept he) hs
      exact ⟨now + ttl, if_pos hs, Nat.le_trans hlow hwritten, by omega⟩
    · exact ⟨x, (if_neg hs).trans hx, hlow, hhigh⟩
  have hcoveredNew : (w.note (now + ttl)).dueAt? new.slot = some (now + ttl) := by
    rw [hdueAt, if_pos hslot]
  have hhighNew : now + ttl + 96 * w.period < new.putAt + 2 * ttl := by omega
  have haheadNew : w.nextTick + w.reach new.slot < new.putAt + ttl + (1 + lag) * w.period := by
    rw [hreach, hputAt]
    rcases hlag with rfl | rfl <;> omega
  exact
    { paced := h.paced
      cursor := h.cursor
      slots := hdue (Nat.mod_lt _ (by decide)) h.slots
      near := h.near
      written := hdue (Nat.le_refl _) h.written
      behind := hdue (fun hle => absurd hle hbeyond) h.behind
      apart := List.forall_mem_cons.mpr ⟨hdue (fun hlt => absurd hlt (hlast _)) hapart,
        fun e he => hdue (fun hlt => absurd hlt (hlast _)) (h.apart e (hkept he))⟩
      covered := List.forall_mem_cons.mpr
        ⟨⟨now + ttl, hcoveredNew, by omega, hhighNew⟩, hcovered⟩
      ahead := List.forall_mem_cons.mpr ⟨haheadNew, fun e he => h.ahead e (hkept he)⟩ }

end Timely

/-- **The sweeper is steady at a time**: it is in time, and what it has to do next is in the
future, either a tick, or the end of its wait for the last expiry at the cursor. -/
inductive Steady (ttl now : Nat) (w : Sweeper) (es : List Entry) : Prop where
  | idle (free : w.waitsUntil = none) (early : now < w.nextTick) (timely : Timely ttl 1 now w es)
  | waiting {expiry : Nat} (waits : w.waitsUntil = some expiry) (early : now < expiry)
    (here : w.dueAt? w.cursor = some expiry) (timely : Timely ttl 2 now w es)

namespace Steady

theorem start (httl : 100 ≤ ttl) : Steady ttl 0 (start ttl) [] := by
  have hperiod : 0 < ttl / slotCount := Nat.div_pos httl (by decide)
  exact .idle rfl hperiod ⟨⟨hperiod, rfl⟩, (by decide : 0 < slotCount), nofun,
    Nat.le_of_eq (Nat.zero_add _).symm, nofun, nofun, nofun, nofun, nofun⟩

theorem mono (h : Steady ttl now w es) (hkept : kept ⊆ es) : Steady ttl now w kept := by
  cases h with
  | idle free early timely => exact .idle free early (timely.mono (Nat.le_refl _) hkept)
  | waiting waits early here timely =>
    exact .waiting waits early here (timely.mono (Nat.le_refl _) hkept)

/-- A put comes early for what is in its slot already. -/
theorem early (h : Steady ttl now w es) {e : Entry} (he : e ∈ es) (hslot : e.slot = w.writeSlot) :
    now + 96 * w.period < e.putAt + ttl := by
  cases h with
  | idle _ early timely =>
    have hahead := timely.ahead e he
    rw [reach, hslot, distance_writeSlot timely.cursor] at hahead
    omega
  | waiting _ early here timely =>
    have hfar : w.distance e.slot = 99 := by rw [hslot, distance_writeSlot timely.cursor]
    have hapart := timely.apart e he _ (mem_due_of_dueAt? here)
      (by rw [distance_cursor, hfar]; decide)
    rw [reach, reach, distance_cursor, hfar] at hapart
    omega

/-- **A put keeps the sweeper steady.** -/
theorem note (h : Steady ttl now w es) {new : Entry}
    (hnew : new.putAt = now ∧ new.slot = w.writeSlot) (hkept : kept ⊆ es) :
    Steady ttl now (w.note (now + ttl)) (new :: kept) := by
  have hearly := fun e he => h.early (e := e) he
  cases h with
  | idle free early timely => exact .idle free early (timely.note (.inl rfl) hearly hnew hkept)
  | @waiting expiry waits early here timely =>
    refine .waiting waits early ?_ (timely.note (.inr rfl) hearly hnew hkept)
    have hother := (dueAt?_note timely.written w.cursor).trans
      (if_neg (writeSlot_ne_cursor timely.cursor))
    exact hother.trans here

/-- **What is held is young**: it was put less than the time to live and four periods ago, and
the rest of the time to live that the periods leave. -/
theorem young (h : Steady ttl now w es) {e : Entry} (he : e ∈ es) :
    now < e.putAt + (ttl + 4 * (ttl / 100) + ttl % 100) := by
  cases h with
  | idle _ early timely =>
    have hpaced := timely.paced
    have hahead := timely.ahead e he
    omega
  | @waiting expiry _ early here timely =>
    have hpaced := timely.paced
    obtain ⟨x, hx, -, hhigh⟩ := timely.covered e he
    by_cases hzero : w.distance e.slot = 0
    · have hcursor := eq_cursor_of_distance timely.cursor (timely.slot_lt he) hzero
      have hsame : x = expiry := Option.some.inj (hx.symm.trans (hcursor ▸ here))
      omega
    · -- the wait is for a slot before that of the entry
      have hapart : expiry + w.reach e.slot < e.putAt + ttl + 3 * w.period + w.reach w.cursor :=
        timely.apart e he _ (mem_due_of_dueAt? here) (by rw [distance_cursor]; omega)
      have hreach : 1 * w.period ≤ w.reach e.slot := Nat.mul_le_mul_right _ (by omega)
      have hcursor := w.reach_cursor
      omega

end Steady

/-! ### Steps of the sweeper -/

/-- The entries that are not in some slots. -/
def spared (es : List Entry) (slots : List Nat) : List Entry :=
  es.filter fun e => !slots.contains e.slot

theorem mem_spared {slots : List Nat} {e : Entry} :
    e ∈ spared es slots ↔ e ∈ es ∧ e.slot ∉ slots := by
  simp [spared]

theorem mem_spared_cursor {e : Entry} (he : e ∈ spared es [w.cursor]) :
    e ∈ es ∧ e.slot ≠ w.cursor := by
  obtain ⟨he, hslot⟩ := mem_spared.mp he
  exact ⟨he, fun hcursor => hslot (List.mem_singleton.mpr hcursor)⟩

theorem spared_append (es : List Entry) (slots more : List Nat) :
    spared es (slots ++ more) = spared (spared es slots) more := by
  simp [spared, List.filter_filter, Bool.and_comm]

/-- **The sweeper has done what is due by a time**, for the entries `es`: it is steady, for
the entries that are not in the slots it emptied, and the others have expired. -/
structure Swept (ttl now : Nat) (es : List Entry) (x : Sweeper × List Nat) : Prop where
  steady : Steady ttl now x.1 (spared es x.2)
  gone : ∀ e ∈ es, e.slot ∈ x.2 → e.putAt + ttl ≤ now

theorem swept_of_steady (h : Steady ttl now w es) : Swept ttl now es (w, []) where
  steady := h.mono fun _ he => (mem_spared.mp he).1
  gone _ _ hslot := absurd hslot List.not_mem_nil

/-- Slots that were emptied before. -/
theorem Swept.after {x : Sweeper × List Nat} {slots : List Nat}
    (h : Swept ttl now (spared es slots) x)
    (hgone : ∀ e ∈ es, e.slot ∈ slots → e.putAt + ttl ≤ now) :
    Swept ttl now es (x.1, slots ++ x.2) where
  steady := by
    rw [spared_append]
    exact h.steady
  gone e he hslot := by
    by_cases hfirst : e.slot ∈ slots
    · exact hgone e he hfirst
    · have hlater : e.slot ∈ x.2 := (List.mem_append.mp hslot).resolve_left hfirst
      exact h.gone e (mem_spared.mpr ⟨he, hfirst⟩) hlater

theorem Timely.expiry_le (h : Timely ttl lag now w es) {expiry : Nat}
    (hdue : w.dueAt? slot = some expiry) {e : Entry} (he : e ∈ es) (hslot : e.slot = slot) :
    e.putAt + ttl ≤ expiry := by
  obtain ⟨x, hx, hlow, -⟩ := h.covered e he
  rw [hslot, hdue] at hx
  cases hx
  exact hlow

theorem Timely.waits (h : Timely ttl lag now w es) (expiry : Nat) :
    Timely ttl lag now { w with waitsUntil := some expiry } es :=
  ⟨h.paced, h.cursor, h.slots, h.near, h.written, h.behind, h.apart, h.covered, h.ahead⟩

theorem visit_free (h : w.dueAt? w.cursor = none) (time : Nat) :
    w.visit time = (w.empty, []) := by
  simp only [visit, h]

theorem visit_early {expiry time : Nat} (h : w.dueAt? w.cursor = some expiry)
    (hearly : time < expiry) : w.visit time = ({ w with waitsUntil := some expiry }, []) := by
  simp only [visit, h, hearly, ↓reduceIte]

theorem visit_late {expiry time : Nat} (h : w.dueAt? w.cursor = some expiry)
    (hlate : ¬ time < expiry) : w.visit time = (w.empty, [w.cursor]) := by
  simp only [visit, h, hlate, ↓reduceIte]

/-- **A visit at a time is what is due then**: the sweeper waits for the slot at the cursor,
or all that is in it has expired. -/
theorem visit_swept (h : Timely ttl 2 now w es) (early : now < w.nextTick) :
    Swept ttl now es (w.visit now) := by
  cases hdue : w.dueAt? w.cursor with
  | none =>
    rw [visit_free hdue]
    refine swept_of_steady (.idle rfl early (h.empty fun e he => ⟨he, fun hslot => ?_⟩))
    obtain ⟨x, hx, -⟩ := h.covered e he
    rw [hslot, hdue] at hx
    cases hx
  | some expiry =>
    by_cases hwait : now < expiry
    · rw [visit_early hdue hwait]
      exact swept_of_steady (.waiting rfl hwait hdue (h.waits expiry))
    · rw [visit_late hdue hwait]
      exact ⟨.idle rfl early (h.empty fun e he => mem_spared_cursor he), fun e he hslot =>
        Nat.le_trans (h.expiry_le hdue he (List.mem_singleton.mp hslot)) (Nat.le_of_not_lt hwait)⟩

/-- Of the ticks after a time, the first is less than a period away. -/
theorem tick_after {tick period time : Nat} (hperiod : 0 < period) (h : tick ≤ time) :
    time < tick + ((time - tick) / period + 1) * period ∧
      tick + ((time - tick) / period + 1) * period ≤ time + period ∧
      tick + period ≤ tick + ((time - tick) / period + 1) * period := by
  have hdiv := Nat.div_add_mod (time - tick) period
  have hmod := Nat.mod_lt (time - tick) hperiod
  rw [Nat.add_mul, Nat.one_mul, Nat.mul_comm _ period]
  omega

/-- **The end of a wait is what is due then**, with the tick that is caught up on. -/
theorem catchUp_swept (h : Timely ttl 2 now w es) {expiry : Nat} (hnow : now ≤ expiry)
    (here : w.dueAt? w.cursor = some expiry) :
    Swept ttl expiry es
      ((w.empty.catchUp expiry).1, w.cursor :: (w.empty.catchUp expiry).2) := by
  have hempty : Timely ttl 1 now w.empty (spared es [w.cursor]) :=
    h.empty fun e he => mem_spared_cursor he
  have hrest : Swept ttl expiry (spared es [w.cursor]) (w.empty.catchUp expiry) := by
    by_cases hearly : expiry < w.nextTick
    · have hnone : w.empty.catchUp expiry = (w.empty, []) := if_pos hearly
      rw [hnone]
      exact swept_of_steady (.idle rfl hearly (hempty.mono hnow (List.Subset.refl _)))
    · obtain ⟨hlater, hnear, hmoved⟩ := tick_after h.paced.1 (Nat.le_of_not_lt hearly)
      have hvisit : w.empty.catchUp expiry = visit { w.empty with
          nextTick := w.nextTick + ((expiry - w.nextTick) / w.period + 1) * w.period } expiry := by
        rw [Nat.mul_comm]
        exact if_neg hearly
      rw [hvisit]
      refine visit_swept (hempty.tick hnow hlater hnear hmoved fun e he => ?_) hlater
      -- the slot of the entry was reached from the slot of the wait, and is a period nearer
      obtain ⟨he, hslot⟩ := mem_spared_cursor he
      have hfar : 1 ≤ w.distance e.slot := distance_pos h.cursor (h.slot_lt he) hslot
      have hapart : expiry + w.reach e.slot < e.putAt + ttl + 3 * w.period + w.reach w.cursor :=
        h.apart e he _ (mem_due_of_dueAt? here) (by rw [distance_cursor]; exact hfar)
      have hcursor := w.reach_cursor
      have hreach : w.empty.reach e.slot + 1 * w.period = w.reach e.slot :=
        reach_moved h.cursor (h.slot_lt he) rfl rfl hfar
      have hperiod : w.empty.period = w.period := rfl
      omega
  exact hrest.after fun e he hslot => h.expiry_le here he (List.mem_singleton.mp hslot)

/-- **A tick is what is due then**, after the ticks that are passed over. -/
theorem tick_swept (h : Timely ttl 1 now w es) (early : now < w.nextTick)
    (hn : ∀ d ∈ w.due, n ≤ w.distance d.1) :
    Swept ttl (w.stride n).nextTick es
      (visit { w.stride n with nextTick := (w.stride n).nextTick + w.period }
        (w.stride n).nextTick) := by
  have hpaced := h.paced
  have hnext : (w.stride n).nextTick = w.nextTick + n * w.period := rfl
  have hperiod : (w.stride n).period = w.period := rfl
  -- the sweeper at the last tick that is passed over, if there is one
  have hstride : Timely ttl 1 (max now (w.nextTick + n * w.period - w.period)) (w.stride n) es :=
    h.stride (Nat.le_max_left _ _) early hn (by omega)
  have htick : (w.stride n).nextTick < (w.stride n).nextTick + w.period := by omega
  refine visit_swept (hstride.tick (by omega) htick (Nat.le_refl _) (Nat.le_refl _) fun e he => ?_)
    htick
  have hahead := hstride.ahead e he
  omega

/-! ### The ticks that are passed over -/

theorem foldl_min_spec {α : Type} (f : α → Nat) : ∀ (l : List α) (n : Nat),
    l.foldl (fun n d => min n (f d)) n ≤ n ∧
      (∀ d ∈ l, l.foldl (fun n d => min n (f d)) n ≤ f d) ∧
      (l.foldl (fun n d => min n (f d)) n = n ∨ ∃ d ∈ l, l.foldl (fun n d => min n (f d)) n = f d)
  | [], n => ⟨Nat.le_refl n, nofun, .inl rfl⟩
  | a :: l, n => by
    obtain ⟨hle, hall, hsome⟩ := foldl_min_spec f l (min n (f a))
    rw [List.foldl_cons]
    refine ⟨by omega, List.forall_mem_cons.mpr ⟨by omega, hall⟩, ?_⟩
    rcases hsome with hsome | ⟨d, hd, hsome⟩
    · rcases Nat.le_total n (f a) with hna | hna
      · exact .inl (hsome.trans (Nat.min_eq_left hna))
      · exact .inr ⟨a, List.mem_cons_self, hsome.trans (Nat.min_eq_right hna)⟩
    · exact .inr ⟨d, List.mem_cons_of_mem a hd, hsome⟩

theorem idleTicks_le_distance (w : Sweeper) (time : Nat) {d : Nat × Nat} (hd : d ∈ w.due) :
    w.idleTicks time ≤ w.distance d.1 :=
  (foldl_min_spec (fun d : Nat × Nat => w.distance d.1) w.due _).2.1 d hd

/-- The ticks that are passed over end with a tick by the time. -/
theorem idleTicks_near (hperiod : 0 < w.period) (time : Nat) :
    w.idleTicks time = 0 ∨ w.nextTick + w.idleTicks time * w.period ≤ time + w.period := by
  have hle : w.idleTicks time ≤ w.ticksBy time :=
    (foldl_min_spec (fun d : Nat × Nat => w.distance d.1) w.due _).1
  unfold ticksBy at hle
  split at hle
  · exact .inl (Nat.le_zero.mp hle)
  · rename_i hlate
    obtain ⟨-, hnear, -⟩ := tick_after hperiod (Nat.le_of_not_lt hlate)
    have hmul := Nat.mul_le_mul_right w.period hle
    exact .inr (by omega)

/-- If a tick by the time is not passed over, it is at a slot that was written to. -/
theorem idleTicks_due (hcursor : w.cursor < slotCount) (hslots : ∀ d ∈ w.due, d.1 < slotCount)
    (hperiod : 0 < w.period) {time : Nat}
    (h : ¬ time < (w.stride (w.idleTicks time)).nextTick) :
    ((w.stride (w.idleTicks time)).dueAt? (w.stride (w.idleTicks time)).cursor).isSome := by
  have hnext : (w.stride (w.idleTicks time)).nextTick =
      w.nextTick + w.idleTicks time * w.period := rfl
  rcases (foldl_min_spec (fun d : Nat × Nat => w.distance d.1) w.due (w.ticksBy time)).2.2 with
    hall | ⟨d, hd, hsome⟩
  · -- all ticks by the time are passed over
    exfalso
    have hall' : w.idleTicks time = w.ticksBy time := hall
    rw [hnext, hall', ticksBy] at h
    split at h
    · omega
    · rename_i hlate
      obtain ⟨hafter, -, -⟩ := tick_after hperiod (Nat.le_of_not_lt hlate)
      omega
  · have hsome' : w.idleTicks time = w.distance d.1 := hsome
    have hmoved : (w.stride (w.idleTicks time)).distance d.1 + w.idleTicks time = w.distance d.1 :=
      distance_moved hcursor (hslots d hd) rfl (Nat.le_of_eq hsome')
    have hat : d.1 = (w.stride (w.idleTicks time)).cursor :=
      eq_cursor_of_distance (Nat.mod_lt _ (by decide)) (hslots d hd) (by omega)
    rw [← hat]
    exact dueAt?_isSome hd

/-! ### Enough steps -/

/-- A bound for the steps that are left: two for each slot that was written to, one of them
done when the sweeper waits. -/
def todo (w : Sweeper) : Nat := 2 * w.due.length - if w.waitsUntil.isSome then 1 else 0

theorem dueBut_length_lt {x : Nat} (h : w.dueAt? slot = some x) :
    (w.dueBut slot).length < w.due.length := by
  refine List.length_filter_lt_length_iff_exists.mpr ⟨(slot, x), mem_due_of_dueAt? h, ?_⟩
  simp

/-- A visit leaves no more to do, and less if the slot was written to. -/
theorem visit_todo (w : Sweeper) (time : Nat) : (w.visit time).1.todo ≤ 2 * w.due.length ∧
    ((w.dueAt? w.cursor).isSome → (w.visit time).1.todo < 2 * w.due.length) := by
  have hfilter : (w.dueBut w.cursor).length ≤ w.due.length := List.length_filter_le _ _
  have hempty : w.empty.todo = 2 * (w.dueBut w.cursor).length := rfl
  cases hdue : w.dueAt? w.cursor with
  | none =>
    rw [visit_free hdue, hempty]
    exact ⟨by omega, nofun⟩
  | some expiry =>
    have hless := dueBut_length_lt hdue
    by_cases hwait : time < expiry
    · have hwaits : ({ w with waitsUntil := some expiry } : Sweeper).todo =
          2 * w.due.length - 1 := rfl
      rw [visit_early hdue hwait, hwaits]
      exact ⟨by omega, fun _ => by omega⟩
    · rw [visit_late hdue hwait, hempty]
      exact ⟨by omega, fun _ => by omega⟩

theorem catchUp_todo (w : Sweeper) (expiry : Nat) (free : w.waitsUntil = none) :
    (w.catchUp expiry).1.todo ≤ 2 * w.due.length := by
  unfold catchUp
  split
  · simp [todo, free]
  · exact (visit_todo _ expiry).1

/-! ### Up to a time -/

/-- **A step of the sweeper is what is due at some time**, and there is less to do after it. -/
theorem step?_swept {x : Sweeper × List Nat} {time : Nat} (h : Steady ttl now w es)
    (hx : w.step? time = some x) :
    ∃ later, later ≤ time ∧ Swept ttl later es x ∧ x.1.todo < w.todo := by
  cases h with
  | @waiting expiry waits early here timely =>
    simp only [step?, waits] at hx
    split at hx
    · cases hx
    · rename_i hover
      cases hx
      refine ⟨expiry, Nat.le_of_not_lt hover,
        catchUp_swept timely (Nat.le_of_lt early) here, ?_⟩
      have hless := dueBut_length_lt here
      have hcatch : (w.empty.catchUp expiry).1.todo ≤ 2 * (w.dueBut w.cursor).length :=
        catchUp_todo w.empty expiry rfl
      have htodo : w.todo = 2 * w.due.length - 1 := by simp [todo, waits]
      show (w.empty.catchUp expiry).1.todo < w.todo
      omega
  | idle free early timely =>
    simp only [step?, free] at hx
    split at hx
    · cases hx
    · rename_i hover
      cases hx
      refine ⟨(w.stride (w.idleTicks time)).nextTick, Nat.le_of_not_lt hover,
        tick_swept timely early fun d hd => w.idleTicks_le_distance time hd, ?_⟩
      have hdue := idleTicks_due timely.cursor timely.slots timely.paced.1 hover
      have htodo : w.todo = 2 * w.due.length := by simp [todo, free]
      rw [htodo]
      exact (visit_todo _ _).2 hdue

/-- When nothing more happens by a time, the sweeper is steady at that time. -/
theorem rest_steady {time : Nat} (h : Steady ttl now w es) (hnow : now ≤ time)
    (hnone : w.step? time = none) : Steady ttl time (w.rest time) es := by
  cases h with
  | @waiting expiry waits early here timely =>
    have hrest : w.rest time = w := by simp only [rest, waits]
    rw [hrest]
    simp only [step?, waits] at hnone
    split at hnone
    · rename_i hearly
      exact .waiting waits hearly here (timely.mono hnow (List.Subset.refl es))
    · cases hnone
  | idle free early timely =>
    have hrest : w.rest time = w.stride (w.idleTicks time) := by simp only [rest, free]
    rw [hrest]
    simp only [step?, free] at hnone
    split at hnone
    · rename_i hearly
      have hnear : w.nextTick + w.idleTicks time * w.period ≤ time + w.period := by
        rcases idleTicks_near timely.paced.1 time with hzero | hnear
        · have hnext := timely.near
          rw [hzero]
          omega
        · exact hnear
      exact .idle free hearly
        (timely.stride hnow early (fun d hd => w.idleTicks_le_distance time hd) hnear)
    · cases hnone

/-- **Steps up to a time do what is due by then**, if they are enough. -/
theorem steps_swept {time : Nat} : ∀ (fuel : Nat) {now : Nat} {w : Sweeper} {es : List Entry},
    Steady ttl now w es → now ≤ time → w.todo < fuel → Swept ttl time es (steps time fuel w)
  | 0, _, _, _, _, _, hfuel => absurd hfuel (Nat.not_lt_zero _)
  | fuel + 1, now, w, es, h, hnow, hfuel => by
    cases hstep : w.step? time with
    | none =>
      simp only [steps, hstep]
      exact swept_of_steady (rest_steady h hnow hstep)
    | some x =>
      obtain ⟨later, hlater, hswept, htodo⟩ := step?_swept h hstep
      have hrest := steps_swept fuel hswept.steady hlater (by omega)
      simp only [steps, hstep]
      exact hrest.after fun e he hslot => Nat.le_trans (hswept.gone e he hslot) hlater

/-- **Letting the sweeper run up to a time does what is due by then.** -/
theorem run_swept {time : Nat} (h : Steady ttl now w es) (hnow : now ≤ time) :
    Swept ttl time es (w.run time) :=
  steps_swept _ h hnow (by rw [todo]; omega)

end Sweeper
end PaymentGateway
