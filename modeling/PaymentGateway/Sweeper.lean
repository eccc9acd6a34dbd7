/-
# The sweeper

What is written into the registry is put into one of a hundred slots, and the
sweeper empties the slots in turn. It ticks once in every hundredth of the time
to live. A tick visits the slot at the cursor: if all that was written there
has expired the slot is emptied and the cursor moves on, otherwise the sweeper
first waits for the last expiry in that slot. A write goes to the slot behind
the cursor, which is the last one to be visited. Of the ticks that come while
the sweeper waits it catches up on one and loses the others.

Slots that hold nothing are passed over in one stride, so letting time pass
takes a bounded number of steps however long it is.

Key definitions: `Sweeper`, `Sweeper.start`, `Sweeper.note`, `Sweeper.run`.
-/
namespace PaymentGateway

/-- The sweeper: the time between ticks, the slot to be visited next, the time
of the next tick, the end of its wait when it is waiting, and the last expiry
of each slot that was written to since it was emptied. -/
structure Sweeper where
  period : Nat
  cursor : Nat
  nextTick : Nat
  waitsUntil : Option Nat
  due : List (Nat × Nat)
  deriving Repr, DecidableEq

namespace Sweeper

/-- The number of slots. -/
def slotCount : Nat := 100

/-- The sweeper of an empty registry, for a time to live. -/
def start (ttl : Nat) : Sweeper := ⟨ttl / slotCount, 0, ttl / slotCount, none, []⟩

/-- The slot that is written to. -/
def writeSlot (w : Sweeper) : Nat := (w.cursor + (slotCount - 1)) % slotCount

/-- The last expiry of a slot that was written to. -/
def dueAt? (w : Sweeper) (slot : Nat) : Option Nat := w.due.lookup slot

/-- The slots written to, but for one. -/
def dueBut (w : Sweeper) (slot : Nat) : List (Nat × Nat) := w.due.filter fun d => d.1 ≠ slot

/-- Notes a write that expires at `expiry`. -/
def note (w : Sweeper) (expiry : Nat) : Sweeper :=
  { w with
    due := (w.writeSlot, max expiry ((w.dueAt? w.writeSlot).getD 0)) :: w.dueBut w.writeSlot }

/-- The sweeper after `n` ticks at slots that hold nothing. -/
def stride (w : Sweeper) (n : Nat) : Sweeper :=
  { w with cursor := (w.cursor + n) % slotCount, nextTick := w.nextTick + n * w.period }

/-- The number of ticks up to a time, if none is lost. -/
def ticksBy (w : Sweeper) (time : Nat) : Nat :=
  if time < w.nextTick then 0 else (time - w.nextTick) / w.period + 1

/-- How many slots lie between the cursor and a slot. -/
def distance (w : Sweeper) (slot : Nat) : Nat := (slot + slotCount - w.cursor) % slotCount

/-- The ticks that may be passed over up to a time: those before the next slot
that was written to. -/
def idleTicks (w : Sweeper) (time : Nat) : Nat :=
  w.due.foldl (fun n d => min n (w.distance d.1)) (w.ticksBy time)

/-- The sweeper with the slot at the cursor emptied. -/
def empty (w : Sweeper) : Sweeper :=
  { w with
    cursor := (w.cursor + 1) % slotCount
    waitsUntil := none
    due := w.dueBut w.cursor }

/-- Visits the slot at the cursor at a time; gives the slot if it is emptied. -/
def visit (w : Sweeper) (time : Nat) : Sweeper × List Nat :=
  match w.dueAt? w.cursor with
  | some expiry =>
    if time < expiry then ({ w with waitsUntil := some expiry }, []) else (w.empty, [w.cursor])
  | none => (w.empty, [])

/-- Takes the tick that came first during a wait that ended at `time`; the
others are lost. -/
def catchUp (w : Sweeper) (time : Nat) : Sweeper × List Nat :=
  if time < w.nextTick then (w, [])
  else
    { w with nextTick := w.nextTick + w.period * ((time - w.nextTick) / w.period + 1) }.visit time

/-- One step of the sweeper up to a time: the end of a wait, or the next tick at
a slot that was written to. `none` when nothing more happens by then. -/
def step? (w : Sweeper) (time : Nat) : Option (Sweeper × List Nat) :=
  match w.waitsUntil with
  | some expiry =>
    if time < expiry then none
    else
      let (after, slots) := w.empty.catchUp expiry
      some (after, w.cursor :: slots)
  | none =>
    let w := w.stride (w.idleTicks time)
    if time < w.nextTick then none
    else some ({ w with nextTick := w.nextTick + w.period }.visit w.nextTick)

/-- The sweeper at a time when it has nothing left to do before. -/
def rest (w : Sweeper) (time : Nat) : Sweeper :=
  match w.waitsUntil with
  | some _ => w
  | none => w.stride (w.idleTicks time)

/-- At most so many steps up to a time, with the slots emptied by them. -/
def steps (time : Nat) : Nat → Sweeper → Sweeper × List Nat
  | 0, w => (w.rest time, [])
  | n + 1, w =>
    match w.step? time with
    | none => (w.rest time, [])
    | some (w, slots) =>
      let (after, more) := steps time n w
      (after, slots ++ more)

/-- Lets the sweeper run up to a time; gives the slots it empties. A slot that
was written to takes at most two steps: a visit and the end of a wait. -/
def run (w : Sweeper) (time : Nat) : Sweeper × List Nat := steps time (2 * w.due.length + 1) w

end Sweeper
end PaymentGateway
