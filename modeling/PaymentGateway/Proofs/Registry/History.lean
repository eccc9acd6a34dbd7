/-
# What a lookup by secret finds, told from the history alone

A lookup by secret goes through an index that puts, evictions and sweeps keep
changing. What it finds can be told from the records put: it finds the last
record put with that secret, provided that this is also the last record put
under its id and that the id is visible now (`find_run_iff`). A secret shared
by two ids belongs to the one that was put last, also after that one is gone.

The invariant is `Follows h t`: the entries held are the last records put under
their keys, the secret index only points where the secret was put last, and it
does point at every entry held whose record is the last with its secret.

Key definitions: `Registry.Latest`, `Registry.Follows`.
Key theorems: `Registry.Built.follows`, `Registry.find_run_iff`.
-/
import PaymentGateway.Proofs.Registry.Run

namespace PaymentGateway
namespace Registry

/-- The last record put under an id, of records the newest first. -/
def lastOn (h : List Record) (id : String) : Option Record := h.find? (·.id = id)

/-- The last record put with a secret, of records the newest first. -/
def lastWith (h : List Record) (secret : String) : Option Record :=
  h.find? (·.clientSecret = secret)

theorem lastOn_cons (x : Record) (h : List Record) (id : String) :
    lastOn (x :: h) id = if x.id = id then some x else lastOn h id := by
  by_cases hx : x.id = id <;> simp [lastOn, hx]

theorem lastWith_cons (x : Record) (h : List Record) (secret : String) :
    lastWith (x :: h) secret = if x.clientSecret = secret then some x else lastWith h secret := by
  by_cases hx : x.clientSecret = secret <;> simp [lastWith, hx]

/-- The tables follow the history. -/
structure Follows (h : List Record) (t : Tables) : Prop where
  held : ∀ e ∈ t.entries, lastOn h e.key = some e.record
  target : ∀ secret id, t.bySecret.get? secret = some id →
    ∃ rec, lastWith h secret = some rec ∧ rec.id = id
  indexed : ∀ e ∈ t.entries, lastWith h e.record.clientSecret = some e.record →
    t.bySecret.get? e.record.clientSecret = some e.key

namespace Follows

variable {h : List Record} {e : Entry} {es : List Entry} {bySecret byId : Index}

/-- Erasing a secret of the entry that leaves cannot hit another entry: the
index would have to point at both. -/
theorem drop (hf : Follows h ⟨e :: es, bySecret, byId⟩) (hn : e.key ∉ es.map (·.key)) :
    Follows h ⟨es, bySecret.eraseIf e.record.clientSecret e.key,
      byId.eraseIf e.key e.record.clientSecret⟩ where
  held x hx := hf.held x (List.mem_cons_of_mem _ hx)
  target secret id hs := hf.target secret id (Index.get?_of_eraseIf hs)
  indexed x hx hlast := by
    have hpoint := hf.indexed x (List.mem_cons_of_mem _ hx) hlast
    have hne : x.key ≠ e.key := fun hk => hn (List.mem_map.mpr ⟨x, hx, hk⟩)
    rw [Index.get?_eraseIf, if_neg, hpoint]
    rintro ⟨hsec, herased⟩
    rw [hsec, herased] at hpoint
    exact hne (Option.some.inj hpoint).symm

/-- A new entry is the last put under its id and with its secret. -/
theorem add (hf : Follows h ⟨es, bySecret, byId⟩) (hnew : e.key ∉ es.map (·.key))
    (hown : e.record.id = e.key) :
    Follows (e.record :: h) ⟨e :: es, bySecret.set e.record.clientSecret e.key,
      byId.set e.key e.record.clientSecret⟩ where
  held := by
    refine List.forall_mem_cons.mpr ⟨?_, fun x hx => ?_⟩
    · rw [lastOn_cons, if_pos hown]
    · have hne : e.record.id ≠ x.key := fun hk =>
        hnew (List.mem_map.mpr ⟨x, hx, (hown.symm.trans hk).symm⟩)
      rw [lastOn_cons, if_neg hne]
      exact hf.held x hx
  target secret id hs := by
    rw [Index.get?_set] at hs
    rw [lastWith_cons]
    split at hs
    · rename_i hsec
      cases hs
      exact ⟨e.record, by simp [hsec], hown⟩
    · rename_i hsec
      rw [if_neg (Ne.symm hsec)]
      exact hf.target secret id hs
  indexed x hx hlast := by
    rw [Index.get?_set]
    rw [lastWith_cons] at hlast
    split at hlast
    · -- the last record with this secret is the new one
      rename_i hsec
      have hxe : x.key = e.key := by
        rcases List.mem_cons.mp hx with rfl | hx
        · rfl
        · have hrec : e.record = x.record := Option.some.inj hlast
          have hxid := hf.held x hx
          have hid : x.record.id = x.key := by simpa using List.find?_some hxid
          rw [← hid, ← hrec, hown]
      rw [if_pos hsec.symm, hxe]
    · rename_i hsec
      rw [if_neg (Ne.symm hsec)]
      rcases List.mem_cons.mp hx with rfl | hx
      · exact absurd rfl hsec
      · exact hf.indexed x hx hlast

end Follows

/-- **Built tables follow their history.** -/
theorem Built.follows {h : List Record} {t : Tables} (hb : Built h t) : Follows h t := by
  induction hb with
  | empty => exact ⟨by simp, by simp [Index.get?], by simp⟩
  | reorder hp _ ih =>
    exact ⟨fun e he => ih.held e (hp.mem_iff.mpr he), ih.target,
      fun e he => ih.indexed e (hp.mem_iff.mpr he)⟩
  | drop hb ih => exact ih.drop (List.nodup_cons.mp hb.coherent.keys).1
  | add hnew hown _ ih => exact ih.add hnew hown

/-! ### The lookup -/

/-- Of two records that are each the first of a kind and of the other's kind,
neither stands before the other. -/
theorem lastWith_eq_lastOn {h : List Record} {a b : Record}
    (ha : lastWith h b.clientSecret = some a) (hb : lastOn h a.id = some b) : a = b := by
  induction h with
  | nil => simp [lastWith] at ha
  | cons x h ih =>
    rw [lastWith_cons] at ha
    rw [lastOn_cons] at hb
    split at ha
    · cases ha
      simpa using hb
    · split at hb
      · rename_i hsec hid
        cases hb
        exact absurd rfl hsec
      · exact ih ha hb

/-- What a lookup by secret finds in tables that are built. -/
theorem find_iff_last {h : List Record} {r : Registry} (hb : Built h r.tables) {secret : String}
    {rec : Record} : (r.find secret).1 = some rec ↔
      secret ≠ "" ∧ rec.clientSecret = secret ∧ lastWith h secret = some rec ∧
        lastOn h rec.id = some rec ∧ (r.get? rec.id).isSome := by
  have hc := hb.coherent
  have hf := hb.follows
  rw [find_eq_some_iff]
  refine and_congr_right fun _ => ⟨?_, ?_⟩
  · rintro ⟨id, e, hid, hv, rfl, hsec⟩
    obtain ⟨hmem, hk⟩ := (held?_eq_some_iff hc.keys).mp (visible?_eq_some_iff.mp hv).1
    have hown : e.record.id = id := (hc.own e hmem).trans hk
    obtain ⟨a, ha, haid⟩ := hf.target secret id hid
    have hlast : lastOn h id = some e.record := hk ▸ hf.held e hmem
    have heq : a = e.record :=
      lastWith_eq_lastOn (hsec ▸ ha) (haid ▸ hlast)
    subst heq
    exact ⟨hsec, ha, hown.symm ▸ hlast, by simp [get?, hown, hv]⟩
  · rintro ⟨rfl, hwith, hon, hvis⟩
    obtain ⟨e, hv⟩ : ∃ e, r.visible? rec.id = some e := by
      simpa [get?, Option.isSome_iff_exists] using hvis
    obtain ⟨hmem, hk⟩ := (held?_eq_some_iff hc.keys).mp (visible?_eq_some_iff.mp hv).1
    have hrec : e.record = rec := by
      have hlast := hf.held e hmem
      rw [hk, hon] at hlast
      exact (Option.some.inj hlast).symm
    subst hrec
    exact ⟨e.key, e, hf.indexed e hmem hwith, hk ▸ hv, rfl, rfl⟩

/-- The record was put, and of the puts since then none had its secret and none
its id. -/
def Latest (ops : List Op) (rec : Record) : Prop :=
  ∃ before after, written ops = before ++ rec :: after ∧
    (∀ x ∈ after, x.clientSecret ≠ rec.clientSecret) ∧ ∀ x ∈ after, x.id ≠ rec.id

theorem latest_iff (ops : List Op) (rec : Record) : Latest ops rec ↔
    lastWith (written ops).reverse rec.clientSecret = some rec ∧
      lastOn (written ops).reverse rec.id = some rec := by
  constructor
  · rintro ⟨before, after, hw, hsec, hid⟩
    rw [hw, lastWith, lastOn]
    simp only [List.reverse_append, List.reverse_cons, List.append_assoc, List.singleton_append]
    constructor <;> rw [List.find?_eq_some_iff_append]
    · exact ⟨by simp, _, _, rfl, fun x hx => by simpa using hsec x (by simpa using hx)⟩
    · exact ⟨by simp, _, _, rfl, fun x hx => by simpa using hid x (by simpa using hx)⟩
  · rintro ⟨hwith, hon⟩
    obtain ⟨-, newer, older, hw, hsec⟩ := List.find?_eq_some_iff_append.mp hwith
    have hsec' : ∀ x ∈ newer, x.clientSecret ≠ rec.clientSecret := by simpa using hsec
    -- the last put under the id is not among the newer ones, for it has the secret
    have hnone : newer.find? (fun x => decide (x.id = rec.id)) = none := by
      rw [Option.eq_none_iff_forall_ne_some]
      intro x hx
      rw [lastOn, hw, List.find?_append, hx] at hon
      cases hon
      exact hsec' rec (List.mem_of_find?_eq_some hx) rfl
    refine ⟨older.reverse, newer.reverse, ?_, ?_, ?_⟩
    · rw [← List.reverse_inj, hw]
      simp
    · exact fun x hx => hsec' x (List.mem_reverse.mp hx)
    · intro x hx
      simpa using List.find?_eq_none.mp hnone x (List.mem_reverse.mp hx)

/-- **A lookup by secret finds what the history says**, for every capacity and
time to live and after every run: a record is found exactly if the last put of
the whole run with that secret is the put of this record, it is also the last
put under the record's id, and the id is visible at this moment. Nothing is
found for the empty secret. -/
theorem find_run_iff (capacity ttl : Int) (ops : List Op) :
    let r := (new capacity ttl).run ops
    (∀ secret rec, (r.find secret).1 = some rec ↔
      secret ≠ "" ∧ rec.clientSecret = secret ∧ Latest ops rec ∧ (r.get? rec.id).isSome) ∧
    (r.find "").1 = none := by
  intro r
  have hb : Built (written ops).reverse r.tables := built_run_new capacity ttl ops
  refine ⟨fun secret rec => ?_, rfl⟩
  rw [find_iff_last hb, latest_iff]
  refine and_congr_right fun _ => and_congr_right fun hsec => ?_
  rw [hsec, and_assoc]

end Registry
end PaymentGateway
