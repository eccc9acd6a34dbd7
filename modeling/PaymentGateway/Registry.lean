/-
# The registry of intents

Records of the intents seen, kept in order of recent use and found by id or by
client secret. The registry is bounded by a capacity (0: unbounded), which
evicts the least recently used record, and by a time to live (0: none), after
which a record is no longer visible.

A record is used when it is put and when it is found by its secret. Time to
live counts from the last put. An expired record is held until the sweeper
empties the slot its last put went to; all records of a slot leave together,
and none before the last of them has expired.

Two indexes go with the records: from a secret to the id it was last put with,
and from an id to the secret it was last put with. A record that leaves takes
its own index entries along, and only those.

Key definitions: `Registry`, `Registry.new`, `Registry.put`, `Registry.find`, `Registry.get?`,
`Registry.advance`.
-/
import PaymentGateway.Sweeper

namespace PaymentGateway

/-- A finite map from texts to texts; the first pair with a key counts. -/
abbrev Index := List (String × String)

namespace Index

/-- The value of a key. -/
def get? (m : Index) (k : String) : Option String := m.lookup k

/-- The map without a key. -/
def erase (m : Index) (k : String) : Index := m.filter fun e => e.1 ≠ k

/-- The map with `v` for `k`. -/
def set (m : Index) (k v : String) : Index := (k, v) :: m.erase k

/-- The map without `k`, provided `k` has the value `v`. -/
def eraseIf (m : Index) (k v : String) : Index := if m.get? k = some v then m.erase k else m

end Index

/-- What is known of an intent. -/
structure Record where
  id : String
  status : String
  clientSecret : String
  deriving Repr, DecidableEq, Inhabited

/-- A record under its key, the time of its last put and the slot that put went
to. -/
structure Entry where
  key : String
  record : Record
  putAt : Nat
  slot : Nat
  deriving Repr, DecidableEq, Inhabited

/-- The registry: its bounds, its clock (in nanoseconds), the entries held
(most recently used first), the sweeper and the two indexes. -/
structure Registry where
  capacity : Nat
  ttl : Nat
  now : Nat
  entries : List Entry
  sweeper : Sweeper
  bySecret : Index
  byId : Index
  deriving Repr, DecidableEq

namespace Registry

/-- A registry that holds nothing. -/
def empty (capacity ttl : Nat) : Registry := ⟨capacity, ttl, 0, [], .start ttl, [], []⟩

/-- The registry for given bounds; a bound that is not positive is none. -/
def new (capacity ttl : Int) : Registry := empty capacity.toNat ttl.toNat

/-- The time to live at which nothing is swept: ten years of 365 days. -/
def unsweptTtl : Nat := 315360000000000000

/-- Whether an entry has outlived its time. -/
def expired (r : Registry) (e : Entry) : Bool := r.ttl ≠ 0 && e.putAt + r.ttl < r.now

/-- The entry held for an id. -/
def held? (r : Registry) (id : String) : Option Entry := r.entries.find? (·.key = id)

/-- The entry held for an id, unless it has expired. -/
def visible? (r : Registry) (id : String) : Option Entry :=
  (r.held? id).filter fun e => !r.expired e

/-- The number of records held, expired ones included. -/
def size (r : Registry) : Nat := r.entries.length

/-- The entries other than the one of `id`, in their order. -/
def others (r : Registry) (id : String) : List Entry :=
  r.entries.filter fun e => e.key ≠ id

/-- Removes the index entries of a record that is no longer held. -/
def forget (r : Registry) (e : Entry) : Registry :=
  { r with
    bySecret := r.bySecret.eraseIf e.record.clientSecret e.key
    byId := r.byId.eraseIf e.key e.record.clientSecret }

/-- Removes the index entries of several records. -/
def forgetAll (r : Registry) (es : List Entry) : Registry := es.foldl forget r

/-- Notes a put at this moment with the sweeper. -/
def notePut (r : Registry) : Registry := { r with sweeper := r.sweeper.note (r.now + r.ttl) }

/-- Drops the secret the id had before, if it changes. -/
def dropOldSecret (r : Registry) (id secret : String) : Registry :=
  match r.byId.get? id with
  | some old => if old ≠ secret then { r with bySecret := r.bySecret.eraseIf old id } else r
  | none => r

/-- Puts a record in front under its key. A key that is new to a full registry
pushes out the last one. -/
def place (r : Registry) (key : String) (rec : Record) : Registry :=
  let entry : Entry := ⟨key, rec, r.now, r.sweeper.writeSlot⟩
  match r.held? key with
  | some _ => { r with entries := entry :: r.others key }
  | none =>
    let entries := entry :: r.entries
    if r.capacity ≠ 0 ∧ r.capacity < entries.length then
      match entries.getLast? with
      | some last => forget { r with entries := entries.dropLast } last
      | none => { r with entries }
    else { r with entries }

/-- Inserts or replaces the record of an id. -/
def put (r : Registry) (id status secret : String) : Registry :=
  let r := ((r.dropOldSecret id secret).place id ⟨id, status, secret⟩).notePut
  { r with bySecret := r.bySecret.set secret id, byId := r.byId.set id secret }

/-- Marks the record of an id as just used. -/
def touch (r : Registry) (e : Entry) : Registry :=
  { r with entries := e :: r.others e.key }

/-- The record whose client secret is `secret`, which is thereby used. -/
def find (r : Registry) (secret : String) : Option Record × Registry :=
  if secret = "" then (none, r)
  else match (r.bySecret.get? secret).bind r.visible? with
    | none => (none, r)
    | some e => (if e.record.clientSecret = secret then some e.record else none, r.touch e)

/-- The record of an id; looking does not count as use. -/
def get? (r : Registry) (id : String) : Option Record := (r.visible? id).map (·.record)

/-- Removes the records in some slots. -/
def removeSlots (r : Registry) (slots : List Nat) : Registry :=
  let gone := r.entries.filter fun e => slots.contains e.slot
  let kept := r.entries.filter fun e => !slots.contains e.slot
  forgetAll { r with entries := kept } gone

/-- Removes the records in the slots that the sweeper empties by now. -/
def sweep (r : Registry) : Registry :=
  let (sweeper, slots) := r.sweeper.run r.now
  { r with sweeper }.removeSlots slots

/-- Lets time pass. Without a time to live nothing expires, as the store
underneath documents, and the clock stands still. Its code takes ten years
for it (`unsweptTtl`), after which a record would be out of sight, though never
swept. -/
def advance (r : Registry) (ns : Nat) : Registry :=
  if r.ttl = 0 then r
  else
    let later := { r with now := r.now + ns }
    if r.ttl = unsweptTtl then later else later.sweep

end Registry
end PaymentGateway
