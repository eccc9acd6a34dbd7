/-
# The registry under other names

To the registry a client secret is a name: it is compared with other secrets
and with the empty text, and nothing else is done to it. A status is not even
compared. So renaming the secrets (injectively, the empty one kept) and
rewriting the statuses (in any way) commutes with every operation: the renamed
registry answers the renamed question with the renamed answer (`find_relabel`,
`get?_relabel`) and goes to the renamed registry (`step_relabel`), evictions
and sweeps included. This needs no invariant; it holds of every registry.

Two uses are named: `Relabelling.ofSecrets` changes the secrets alone, and
`Relabelling.blur` makes all statuses alike.

Key definitions: `Relabelling`, `Registry.relabel`, `Registry.blurred`.
Key theorems: `Registry.put_relabel`, `Registry.find_relabel`,
`Registry.advance_relabel`, `Registry.step_relabel`.
-/
import PaymentGateway.Proofs.Registry.Run

namespace PaymentGateway

/-- Other names for secrets and other statuses: secrets stay apart, and the
empty one stays empty. -/
structure Relabelling where
  secret : String → String
  status : String → String
  injective : Function.Injective secret
  secret_empty : secret "" = ""

namespace Relabelling

/-- Other names for secrets, statuses as they are. -/
def ofSecrets (f : String → String) (hf : Function.Injective f) (h0 : f "" = "") : Relabelling :=
  ⟨f, id, hf, h0⟩

/-- Secrets as they are, all statuses alike. -/
def blur : Relabelling := ⟨id, fun _ => "", Function.injective_id, rfl⟩

theorem secret_eq_empty_iff (ρ : Relabelling) (s : String) : ρ.secret s = "" ↔ s = "" := by
  rw [← ρ.injective.eq_iff (a := s), ρ.secret_empty]

end Relabelling

/-! ### Indexes -/

namespace Index

/-- The index with other keys and other values. -/
def relabel (f g : String → String) (m : Index) : Index := m.map (Prod.map f g)

variable {f g : String → String}

theorem get?_relabel (hf : Function.Injective f) (m : Index) (k : String) :
    (m.relabel f g).get? (f k) = (m.get? k).map g := by
  induction m with
  | nil => rfl
  | cons e m ih =>
    obtain ⟨a, b⟩ := e
    have hcons : relabel f g ((a, b) :: m) = (f a, g b) :: relabel f g m := rfl
    rw [hcons, get?_cons, get?_cons, ih]
    by_cases h : k = a <;> simp [h, hf.eq_iff]

theorem erase_relabel (hf : Function.Injective f) (m : Index) (k : String) :
    (m.relabel f g).erase (f k) = (m.erase k).relabel f g := by
  unfold erase relabel
  rw [List.filter_map]
  congr 2
  funext e
  simp [hf.eq_iff]

theorem set_relabel (hf : Function.Injective f) (m : Index) (k v : String) :
    (m.relabel f g).set (f k) (g v) = (m.set k v).relabel f g := by
  rw [set, erase_relabel hf]
  rfl

theorem eraseIf_relabel (hf : Function.Injective f) (hg : Function.Injective g) (m : Index)
    (k v : String) : (m.relabel f g).eraseIf (f k) (g v) = (m.eraseIf k v).relabel f g := by
  unfold eraseIf
  have hiff : (m.get? k).map g = some (g v) ↔ m.get? k = some v := by
    rw [← Option.map_some, (Option.map_injective hg).eq_iff]
  rw [get?_relabel hf, erase_relabel hf]
  simp only [hiff]
  split <;> rfl

end Index

/-- The record with its secret and its status relabelled. -/
def Record.relabel (ρ : Relabelling) (rec : Record) : Record :=
  ⟨rec.id, ρ.status rec.status, ρ.secret rec.clientSecret⟩

/-- The entry with its record relabelled. -/
def Entry.relabel (ρ : Relabelling) (e : Entry) : Entry := { e with record := e.record.relabel ρ }

namespace Registry

/-- The registry with its records and its indexes relabelled. -/
def relabel (ρ : Relabelling) (r : Registry) : Registry :=
  { r with
    entries := r.entries.map (Entry.relabel ρ)
    bySecret := r.bySecret.relabel ρ.secret id
    byId := r.byId.relabel id ρ.secret }

/-- The registry with all statuses alike. Two registries differ in statuses
only exactly if they are the same when blurred. -/
def blurred (r : Registry) : Registry := r.relabel .blur

section Relabel

variable (ρ : Relabelling) (r : Registry)

/-! ### Lookups -/

theorem held?_relabel (key : String) :
    (r.relabel ρ).held? key = (r.held? key).map (Entry.relabel ρ) :=
  List.find?_map

theorem visible?_relabel (key : String) :
    (r.relabel ρ).visible? key = (r.visible? key).map (Entry.relabel ρ) := by
  rw [visible?, held?_relabel, Option.filter_map]
  rfl

theorem get?_relabel (key : String) :
    (r.relabel ρ).get? key = (r.get? key).map (Record.relabel ρ) := by
  rw [get?, get?, visible?_relabel, Option.map_map, Option.map_map]
  rfl

@[simp] theorem size_relabel : (r.relabel ρ).size = r.size := List.length_map _

theorem others_relabel (key : String) :
    (r.relabel ρ).others key = (r.others key).map (Entry.relabel ρ) :=
  List.filter_map

theorem bySecret_relabel (secret : String) :
    (r.relabel ρ).bySecret.get? (ρ.secret secret) = r.bySecret.get? secret := by
  have h := Index.get?_relabel (g := id) ρ.injective r.bySecret secret
  rwa [Option.map_id_apply] at h

theorem byId_relabel (key : String) :
    (r.relabel ρ).byId.get? key = (r.byId.get? key).map ρ.secret :=
  Index.get?_relabel Function.injective_id r.byId key

/-! ### Entries that leave -/

theorem eraseSecret_relabel (secret key : String) :
    (r.relabel ρ).bySecret.eraseIf (ρ.secret secret) key =
      (r.bySecret.eraseIf secret key).relabel ρ.secret id :=
  Index.eraseIf_relabel ρ.injective Function.injective_id r.bySecret secret key

theorem eraseId_relabel (key secret : String) :
    (r.relabel ρ).byId.eraseIf key (ρ.secret secret) =
      (r.byId.eraseIf key secret).relabel id ρ.secret :=
  Index.eraseIf_relabel Function.injective_id ρ.injective r.byId key secret

theorem forget_relabel (e : Entry) :
    (r.relabel ρ).forget (e.relabel ρ) = (r.forget e).relabel ρ := by
  simp only [forget, Entry.relabel, Record.relabel, eraseSecret_relabel, eraseId_relabel]
  rfl

theorem forgetAll_relabel : ∀ (es : List Entry) (r : Registry),
    (r.relabel ρ).forgetAll (es.map (Entry.relabel ρ)) = (r.forgetAll es).relabel ρ
  | [], _ => rfl
  | e :: es, r => by
    have ih := forgetAll_relabel es (r.forget e)
    rw [← forget_relabel] at ih
    exact ih

theorem removeSlots_relabel (slots : List Nat) :
    (r.relabel ρ).removeSlots slots = (r.removeSlots slots).relabel ρ := by
  have hfilter : ∀ p : Entry → Bool, (∀ e, p (e.relabel ρ) = p e) →
      (r.relabel ρ).entries.filter p = (r.entries.filter p).map (Entry.relabel ρ) := by
    intro p hp
    have hcomp : p ∘ Entry.relabel ρ = p := funext hp
    rw [← hcomp, ← List.filter_map, hcomp]
    rfl
  unfold removeSlots
  rw [hfilter _ fun _ => rfl, hfilter _ fun _ => rfl]
  exact forgetAll_relabel ρ _ { r with entries := _ }

/-! ### The operations -/

theorem dropOldSecret_relabel (key secret : String) :
    (r.relabel ρ).dropOldSecret key (ρ.secret secret) =
      (r.dropOldSecret key secret).relabel ρ := by
  unfold dropOldSecret
  rw [byId_relabel]
  cases r.byId.get? key with
  | none => rfl
  | some old =>
    simp only [Option.map_some, ρ.injective.ne_iff, eraseSecret_relabel]
    split <;> rfl

theorem place_relabel (key : String) (rec : Record) :
    (r.relabel ρ).place key (rec.relabel ρ) = (r.place key rec).relabel ρ := by
  unfold place
  rw [held?_relabel]
  cases r.held? key with
  | some e =>
    simp only [Option.map_some, others_relabel]
    rfl
  | none =>
    have hcons :
        (⟨key, rec.relabel ρ, (r.relabel ρ).now, (r.relabel ρ).sweeper.writeSlot⟩ : Entry) ::
            (r.relabel ρ).entries =
          ((⟨key, rec, r.now, r.sweeper.writeSlot⟩ : Entry) :: r.entries).map (Entry.relabel ρ) :=
      rfl
    have hcap : (r.relabel ρ).capacity = r.capacity := rfl
    simp only [Option.map_none, hcons, hcap, List.length_map, List.getLast?_map,
      ← List.map_dropLast]
    generalize (⟨key, rec, r.now, r.sweeper.writeSlot⟩ : Entry) :: r.entries = es
    by_cases hfull : r.capacity ≠ 0 ∧ r.capacity < es.length
    · rw [if_pos hfull, if_pos hfull]
      cases es.getLast? with
      | none => rfl
      | some last => exact forget_relabel ρ { r with entries := es.dropLast } last
    · rw [if_neg hfull, if_neg hfull]
      rfl

/-- **A put under other names.** -/
theorem put_relabel (key status secret : String) :
    (r.relabel ρ).put key (ρ.status status) (ρ.secret secret) =
      (r.put key status secret).relabel ρ := by
  have hplace : ((r.relabel ρ).dropOldSecret key (ρ.secret secret)).place key
      ⟨key, ρ.status status, ρ.secret secret⟩ =
        ((r.dropOldSecret key secret).place key ⟨key, status, secret⟩).relabel ρ := by
    rw [dropOldSecret_relabel]
    exact place_relabel ρ _ key ⟨key, status, secret⟩
  unfold put
  rw [hplace]
  generalize (r.dropOldSecret key secret).place key ⟨key, status, secret⟩ = placed
  have hs : (placed.relabel ρ).bySecret.set (ρ.secret secret) key =
      (placed.bySecret.set secret key).relabel ρ.secret id :=
    Index.set_relabel (g := id) ρ.injective placed.bySecret secret key
  have hi : (placed.relabel ρ).byId.set key (ρ.secret secret) =
      (placed.byId.set key secret).relabel id ρ.secret :=
    Index.set_relabel Function.injective_id placed.byId key secret
  simp only [notePut, hs, hi]
  rfl

theorem touch_relabel (e : Entry) :
    (r.relabel ρ).touch (e.relabel ρ) = (r.touch e).relabel ρ := by
  have ho : (r.relabel ρ).others (e.relabel ρ).key = (r.others e.key).map (Entry.relabel ρ) :=
    others_relabel ρ r e.key
  simp only [touch, ho]
  rfl

/-- **A lookup by secret under other names.** -/
theorem find_relabel (secret : String) :
    (r.relabel ρ).find (ρ.secret secret) =
      ((r.find secret).1.map (Record.relabel ρ), (r.find secret).2.relabel ρ) := by
  have hfound : ((r.relabel ρ).bySecret.get? (ρ.secret secret)).bind (r.relabel ρ).visible? =
      ((r.bySecret.get? secret).bind r.visible?).map (Entry.relabel ρ) := by
    rw [bySecret_relabel, Option.map_bind]
    congr 1
    funext key
    exact visible?_relabel ρ r key
  unfold find
  simp only [ρ.secret_eq_empty_iff, hfound]
  split
  · rfl
  · cases (r.bySecret.get? secret).bind r.visible? with
    | none => rfl
    | some e =>
      have hsame : (e.relabel ρ).record.clientSecret = ρ.secret secret ↔
          e.record.clientSecret = secret := ρ.injective.eq_iff
      simp only [Option.map_some, hsame, touch_relabel]
      split <;> rfl

theorem advance_relabel (ns : Nat) : (r.relabel ρ).advance ns = (r.advance ns).relabel ρ := by
  have httl : (r.relabel ρ).ttl = r.ttl := rfl
  unfold advance
  rw [httl]
  split
  · rfl
  · simp only
    split
    · rfl
    · exact removeSlots_relabel ρ { r with now := r.now + ns, sweeper := _ } _

/-- An operation under other names. -/
def Op.relabel : Op → Op
  | .put key status secret => .put key (ρ.status status) (ρ.secret secret)
  | .find secret => .find (ρ.secret secret)
  | .get key => .get key
  | .advance ns => .advance ns

/-- **Every operation commutes with relabelling.** -/
theorem step_relabel (op : Op) : (r.relabel ρ).step (op.relabel ρ) = (r.step op).relabel ρ := by
  cases op with
  | put key status secret => exact put_relabel ρ r key status secret
  | find secret => exact congrArg Prod.snd (find_relabel ρ r secret)
  | get key => rfl
  | advance ns => exact advance_relabel ρ r ns

end Relabel

end Registry
end PaymentGateway
