/-
# Confirmations of different intents commute

Two secrets that are not the same never lead to one record, so two confirmations with
them are about two intents. If the provider keeps intents apart (`Provider.Separates`:
what is asked about one id changes neither the answers about another nor the state they
lead to), then it does not matter which confirmation comes first (`exchange_confirms`):
each answers what it would answer alone, with the same calls, log lines, events and spans,
and the sessions end up the same but for the order of use (`Registry.Reordered`).

On the registry this rests on `confirm_fronted`: a confirmation brings one entry to the
front and never pushes one out. The sandbox keeps intents apart, since each of its
operations reads one holding and writes at most that one (`Sandbox.About`).

Key definitions: `Independent`, `Provider.Separates`, `Registry.Reordered`,
`Handshake.Session.Exchange`, `Sandbox.About`.
Key theorems: `Handshake.find_confirm_other`, `Handshake.exchange_confirms`,
`Sandbox.provider_separates`, `Sandbox.confirms_commute`.
-/
import PaymentGateway.Proofs.Handshake.Renewal
import PaymentGateway.Proofs.Sandbox.Session

namespace PaymentGateway

/-! ### Calls that do not disturb each other -/

section Independence

variable {σ α β γ : Type}

/-- Two calls on one state are independent: the answer to either is the same before and
after the other, and both orders lead to the same state. -/
structure Independent (f : σ → α × σ) (g : σ → β × σ) : Prop where
  first : ∀ s, (f (g s).2).1 = (f s).1
  second : ∀ s, (g (f s).2).1 = (g s).1
  state : ∀ s, (g (f s).2).2 = (f (g s).2).2

namespace Independent

theorem symm {f : σ → α × σ} {g : σ → β × σ} (h : Independent f g) : Independent g f where
  first := h.second
  second := h.first
  state s := (h.state s).symm

/-- A call that answers the same and changes nothing. -/
theorem idle (a : α) (g : σ → β × σ) : Independent (fun s => (a, s)) g where
  first _ := rfl
  second _ := rfl
  state _ := rfl

/-- One call after another, with both answers. -/
def both (f : σ → α × σ) (h : σ → γ × σ) (s : σ) : (α × γ) × σ :=
  (((f s).1, (h (f s).2).1), (h (f s).2).2)

/-- What is independent of two calls is independent of one after the other. -/
theorem seq {f : σ → α × σ} {h : σ → γ × σ} {g : σ → β × σ} (hf : Independent f g)
    (hh : Independent h g) : Independent (both f h) g where
  first s := by
    simp only [both]
    rw [hf.first, ← hf.state, hh.first]
  second s := by
    simp only [both]
    rw [hh.second, hf.second]
  state s := by
    simp only [both]
    rw [hh.state, hf.state]

end Independent
end Independence

/-- The provider keeps intents apart: its operations on two ids are independent. -/
structure Provider.Separates {σ : Type} (p : Provider σ) : Prop where
  confirms : ∀ {id id' : String} (m m' : String), id ≠ id' →
    Independent (p.confirm id m) (p.confirm id' m')
  attaches : ∀ {id id' : String} (m m' : String), id ≠ id' →
    Independent (p.attach m id) (p.attach m' id')
  mixed : ∀ {id id' : String} (m m' : String), id ≠ id' →
    Independent (p.attach m id) (p.confirm id' m')

/-! ### The same but for the order of use -/

namespace Registry

/-- **The registries are the same but for the order of use**: the same entries, with the
same records, times and slots, the same lookups in both indexes, the same bounds, clock and
sweeper. -/
structure Reordered (r r' : Registry) : Prop where
  entries : r.entries.Perm r'.entries
  bySecret : ∀ secret, r.bySecret.get? secret = r'.bySecret.get? secret
  byId : ∀ id, r.byId.get? id = r'.byId.get? id
  capacity : r.capacity = r'.capacity
  ttl : r.ttl = r'.ttl
  now : r.now = r'.now
  sweeper : r.sweeper = r'.sweeper

theorem settled_congr {r r' : Registry} (hnow : r'.now = r.now)
    (hslot : r'.sweeper.writeSlot = r.sweeper.writeSlot) (e : Entry)
    (reply : Except Fault Intent) : r'.settled e reply = r.settled e reply := by
  cases reply with
  | error f => rfl
  | ok i => rw [settled, settled, newEntry, newEntry, hnow, hslot]

/-- A put does not move the slot that is written to. -/
theorem settledSweeper_writeSlot (r : Registry) (reply : Except Fault Intent) :
    (r.settledSweeper reply).writeSlot = r.sweeper.writeSlot := by
  cases reply <;> rfl

theorem Reordered.refl (r : Registry) : r.Reordered r :=
  ⟨.refl _, fun _ => rfl, fun _ => rfl, rfl, rfl, rfl, rfl⟩

theorem Reordered.symm {r r' : Registry} (h : r.Reordered r') : r'.Reordered r :=
  ⟨h.entries.symm, fun s => (h.bySecret s).symm, fun id => (h.byId id).symm, h.capacity.symm,
    h.ttl.symm, h.now.symm, h.sweeper.symm⟩

/-- Two entries of different keys come to the front in either order. -/
theorem Fronted.reordered {r one two both both' : Registry} {x y : Entry} (hx : r.Fronted x one)
    (hy : r.Fronted y two) (hxy : one.Fronted y both) (hyx : two.Fronted x both')
    (hne : x.key ≠ y.key) (hsweeper : both.sweeper = both'.sweeper) : both.Reordered both' where
  entries := by
    rw [hxy.entries, hyx.entries, hx.others_other hne, hy.others_other hne.symm,
      Registry.others, Registry.others, List.filter_comm]
    exact List.Perm.swap _ _ _
  bySecret s := by rw [hxy.bySecret, hx.bySecret, hyx.bySecret, hy.bySecret]
  byId id := by rw [hxy.byId, hx.byId, hyx.byId, hy.byId]
  capacity := by rw [hxy.capacity, hx.capacity, hyx.capacity, hy.capacity]
  ttl := by rw [hxy.ttl, hx.ttl, hyx.ttl, hy.ttl]
  now := by rw [hxy.now, hx.now, hyx.now, hy.now]
  sweeper := hsweeper

/-- A reply about an entry is settled: the entry comes to the front, and the sweeper has
noted the put if there was one. -/
structure Settles (r : Registry) (e : Entry) (reply : Except Fault Intent) (after : Registry) :
    Prop where
  fronted : r.Fronted (r.settled e reply) after
  sweeper : after.sweeper = r.settledSweeper reply

namespace Settles

variable {r one two both both' : Registry} {e e' : Entry} {given given' : Except Fault Intent}

/-- What is put is what would be put without the other: the clock and the slot are the
same. -/
theorem settled_eq (h : r.Settles e given one) (x : Entry) (reply : Except Fault Intent) :
    one.settled x reply = r.settled x reply := by
  refine settled_congr h.fronted.now ?_ x reply
  rw [h.sweeper, settledSweeper_writeSlot]

/-- The sweeper has noted the same after two replies in either order. -/
theorem sweeper_comm (hx : r.Settles e given one) (hy : r.Settles e' given' two) :
    one.settledSweeper given' = two.settledSweeper given := by
  cases given <;> cases given' <;>
    simp only [settledSweeper, hx.sweeper, hy.sweeper, hx.fronted.now, hx.fronted.ttl,
      hy.fronted.now, hy.fronted.ttl]

/-- **Two replies about different entries are settled in either order.** -/
theorem reordered (hx : r.Settles e given one) (hy : r.Settles e' given' two)
    (hxy : one.Settles e' given' both) (hyx : two.Settles e given both') (hne : e.key ≠ e'.key) :
    both.Reordered both' := by
  have hfront := hxy.fronted
  have hfront' := hyx.fronted
  rw [hx.settled_eq] at hfront
  rw [hy.settled_eq] at hfront'
  refine hx.fronted.reordered hy.fronted hfront hfront' ?_ ?_
  · rwa [settled_key, settled_key]
  · rw [hxy.sweeper, hyx.sweeper, hx.sweeper_comm hy]

end Settles

/-- No two secrets lead to one id. -/
theorem secret_unique {r : Registry} (hc : Coherent r.tables) {id secret secret' : String}
    (h : r.bySecret.get? secret = some id) (h' : r.bySecret.get? secret' = some id) :
    secret = secret' :=
  Option.some.inj ((hc.bySecret _ _ h).symm.trans (hc.bySecret _ _ h'))

/-- A lookup by a secret sees the secret index and the entry it leads to. -/
theorem find_congr {r r' : Registry} {secret : String}
    (hindex : r'.bySecret.get? secret = r.bySecret.get? secret)
    (hvisible : ∀ id, r.bySecret.get? secret = some id → r'.visible? id = r.visible? id) :
    (r'.find secret).1 = (r.find secret).1 := by
  ext rec
  rw [find_eq_some_iff, find_eq_some_iff, hindex]
  constructor
  · rintro ⟨hs, id, e, hid, hv, hrec⟩
    exact ⟨hs, id, e, hid, (hvisible id hid).symm.trans hv, hrec⟩
  · rintro ⟨hs, id, e, hid, hv, hrec⟩
    exact ⟨hs, id, e, hid, (hvisible id hid).trans hv, hrec⟩

end Registry

namespace Handshake

open Registry (Coherent Reordered)

variable {σ : Type} {p : Provider σ} {r : Registry} {s : σ}

/-! ### What a confirmation asks of the provider -/

/-- The attach of a confirmation; without a method there is none. -/
def tryAttach (p : Provider σ) (id method : String) (s : σ) : Option Fault × σ :=
  if method = "" then (none, s) else p.attach method id s

/-- All that a confirmation asks of the provider: the attach and the confirmation. -/
def ask (p : Provider σ) (id method : String) :
    σ → (Option Fault × Except Fault Intent) × σ :=
  Independent.both (tryAttach p id method) (p.confirm id method)

theorem ask_reply (p : Provider σ) (rec : Record) (method : String) (s : σ) :
    (ask p rec.id method s).1.2 = reply p s rec method := by
  rw [reply, attached_eq, ask, Independent.both, tryAttach]
  split <;> rfl

theorem ask_remote (p : Provider σ) (publish : Publish) (r : Registry) (rec : Record)
    (method : String) (s : σ) :
    (confirmRecord p publish r s rec method).remote = (ask p rec.id method s).2 := by
  rw [confirmRecord_remote, attached_eq, ask, Independent.both, tryAttach]
  split <;> rfl

/-- The result and the trace of a confirmation go by the record and the provider's answers. -/
theorem confirmRecord_answer (publish : Publish) (r r' : Registry) (rec : Record)
    (method : String) {s s' : σ}
    (h : (ask p rec.id method s).1 = (ask p rec.id method s').1) :
    (confirmRecord p publish r s rec method).result =
        (confirmRecord p publish r' s' rec method).result ∧
      (confirmRecord p publish r s rec method).trace =
        (confirmRecord p publish r' s' rec method).trace := by
  have hreply : reply p s rec method = reply p s' rec method := by
    rw [← ask_reply, ← ask_reply, h]
  have hattach : (attach p s rec.id method).1 = (attach p s' rec.id method).1 ∧
      (attach p s rec.id method).2.2 = (attach p s' rec.id method).2.2 := by
    have hanswer : (tryAttach p rec.id method s).1 = (tryAttach p rec.id method s').1 :=
      (Prod.ext_iff.mp h).1
    unfold tryAttach at hanswer
    unfold attach
    split
    · exact ⟨rfl, rfl⟩
    · rename_i hm
      rw [if_neg hm, if_neg hm] at hanswer
      simp only [hanswer, and_self]
  rcases ha : attach p s rec.id method with ⟨outcome, t, trace⟩
  rcases ha' : attach p s' rec.id method with ⟨outcome', t', trace'⟩
  rw [ha, ha'] at hattach
  obtain ⟨rfl, rfl⟩ : outcome = outcome' ∧ trace = trace' := hattach
  rcases hc : p.confirm rec.id method t with ⟨f | i, u⟩ <;>
    rcases hc' : p.confirm rec.id method t' with ⟨f' | i', u'⟩ <;>
    simp only [reply, attached, ha, ha', hc, hc', Except.error.injEq, Except.ok.injEq,
      reduceCtorEq] at hreply
  · subst hreply
    simp only [confirmRecord, ha, ha', hc, hc', and_self]
  · subst hreply
    simp only [confirmRecord, ha, ha', hc, hc', and_self]

/-- What is independent of an attach is independent of one that may be left out. -/
theorem tryAttach_independent {β : Type} {g : σ → β × σ} {id method : String}
    (h : Independent (p.attach method id) g) : Independent (tryAttach p id method) g := by
  by_cases hm : method = ""
  · have hidle : tryAttach p id method = fun s => (none, s) := funext fun s => if_pos hm
    rw [hidle]
    exact .idle _ _
  · have hcall : tryAttach p id method = p.attach method id := funext fun s => if_neg hm
    rw [hcall]
    exact h

/-- **What two confirmations ask about two ids is independent.** -/
theorem ask_independent (hp : p.Separates) {id id' : String} (hne : id ≠ id') (m m' : String) :
    Independent (ask p id m) (ask p id' m') := by
  have hattach : Independent (tryAttach p id m) (ask p id' m') := by
    have hattaches := tryAttach_independent (tryAttach_independent (hp.attaches m m' hne)).symm
    have hmixed := tryAttach_independent (hp.mixed m m' hne)
    exact (hattaches.seq hmixed.symm).symm
  have hconfirm : Independent (p.confirm id m) (ask p id' m') := by
    have hmixed := tryAttach_independent (hp.mixed m' m hne.symm)
    exact (hmixed.seq (hp.confirms m m' hne).symm).symm
  exact hattach.seq hconfirm

/-! ### Two confirmations -/

/-- A confirmation with another secret does not change what a secret leads to. -/
theorem find_confirm_other (hc : Coherent r.tables) (p : Provider σ) (publish : Publish) (s : σ)
    {req : ConfirmRequest} {secret : String} (hne : secret ≠ req.clientSecret) :
    ((confirm p publish r s req).registry.find secret).1 = (r.find secret).1 := by
  by_cases hs : req.clientSecret = ""
  · rw [confirm_empty p publish r s hs]
  cases hf : (r.find req.clientSecret).1 with
  | none => rw [confirm_unresolved p publish s hs hf, Registry.find_none hc hf]
  | some rec =>
    obtain ⟨e, he, -, hkey, -, hindex⟩ := Registry.held?_of_find hc hf
    obtain ⟨hfront, -⟩ := confirm_fronted hc p publish s hf he
    refine Registry.find_congr (hfront.bySecret secret) fun id hid => hfront.visible?_other ?_
    rw [Registry.settled_key, hkey]
    rintro rfl
    exact hne (Registry.secret_unique hc hid hindex)

/-- **Two operations may be exchanged**: each answers and leaves behind what it would alone,
and after both the provider is in one state and the registries are the same but for the
order of use. -/
structure Session.Exchange (p : Provider σ) (s : Session σ) (a b : Op) : Prop where
  first : ((s.step p b).after.step p a).answer = (s.step p a).answer
  second : ((s.step p a).after.step p b).answer = (s.step p b).answer
  remote : ((s.step p a).after.step p b).after.remote = ((s.step p b).after.step p a).after.remote
  registry : ((s.step p a).after.step p b).after.registry.Reordered
    ((s.step p b).after.step p a).after.registry

theorem Session.Exchange.symm {s : Session σ} {a b : Op} (h : s.Exchange p a b) :
    s.Exchange p b a :=
  ⟨h.second, h.first, h.remote.symm, h.registry.symm⟩

section Confirmations

variable {publish publish' : Publish} {req req' : ConfirmRequest}

/-- The fault of a confirmation that finds no record. -/
def unresolved (req : ConfirmRequest) : Fault :=
  if req.clientSecret = "" then .invalid secretMessage else .notFound

/-- A confirmation that finds nothing changes nothing. -/
theorem step_confirm_none (publish : Publish) {s : Session σ} (hc : Coherent s.registry.tables)
    (hf : (s.registry.find req.clientSecret).1 = none) :
    (s.step p (.confirm publish req)).answer = .confirmed (.error (unresolved req)) .empty ∧
      (s.step p (.confirm publish req)).after = s := by
  by_cases hs : req.clientSecret = ""
  · simp only [Session.step, confirm_empty p publish _ s.remote hs, unresolved, if_pos hs, and_self]
  · simp only [Session.step, confirm_unresolved p publish s.remote hs hf,
      Registry.find_none hc hf, unresolved, if_neg hs, and_self]

theorem exchange_unresolved {s : Session σ} (hc : Coherent s.registry.tables)
    (hc' : Coherent (s.step p (.confirm publish' req')).after.registry.tables)
    (hne : req.clientSecret ≠ req'.clientSecret)
    (hf : (s.registry.find req.clientSecret).1 = none) :
    s.Exchange p (.confirm publish req) (.confirm publish' req') := by
  have hlater : ((s.step p (.confirm publish' req')).after.registry.find req.clientSecret).1 =
      none := (find_confirm_other hc p publish' s.remote hne).trans hf
  obtain ⟨hanswer, hafter⟩ := step_confirm_none (p := p) publish hc hf
  obtain ⟨hanswer', hafter'⟩ := step_confirm_none (p := p) publish hc' hlater
  refine ⟨hanswer'.trans hanswer.symm, ?_, ?_, ?_⟩
  · rw [hafter]
  · rw [hafter, hafter']
  · rw [hafter, hafter']
    exact .refl _

/-- A confirmation that finds its record leaves the provider in the state that its questions
lead to. -/
theorem step_confirm_remote (publish : Publish) {s : Session σ} {rec : Record}
    (hf : (s.registry.find req.clientSecret).1 = some rec) :
    (s.step p (.confirm publish req)).after.remote =
      (ask p rec.id (Text.trim req.paymentMethod) s.remote).2 := by
  rw [← ask_remote p publish (s.registry.find req.clientSecret).2 rec]
  simp only [Session.step, confirm_resolved p publish s.remote hf]

/-- What a confirmation that finds its record answers goes by the provider's answers. -/
theorem step_confirm_answer {s t : Session σ} {rec : Record}
    (hf : (s.registry.find req.clientSecret).1 = some rec)
    (hf' : (t.registry.find req.clientSecret).1 = some rec)
    (h : (ask p rec.id (Text.trim req.paymentMethod) s.remote).1 =
      (ask p rec.id (Text.trim req.paymentMethod) t.remote).1) :
    (s.step p (.confirm publish req)).answer = (t.step p (.confirm publish req)).answer := by
  obtain ⟨hresult, htrace⟩ := confirmRecord_answer publish
    (s.registry.find req.clientSecret).2 (t.registry.find req.clientSecret).2 rec
    (Text.trim req.paymentMethod) h
  simp only [Session.step, confirm_resolved p publish s.remote hf,
    confirm_resolved p publish t.remote hf', hresult, htrace]

/-- A confirmation that finds its record settles the provider's reply about it. -/
theorem step_confirm_settles (publish : Publish) {s : Session σ} {rec : Record} {e : Entry}
    (hc : Coherent s.registry.tables) (hf : (s.registry.find req.clientSecret).1 = some rec)
    (he : s.registry.held? rec.id = some e) :
    s.registry.Settles e (ask p rec.id (Text.trim req.paymentMethod) s.remote).1.2
      (s.step p (.confirm publish req)).after.registry := by
  rw [ask_reply]
  obtain ⟨hfront, hsweeper⟩ := confirm_fronted hc p publish s.remote hf he
  exact ⟨hfront, hsweeper⟩

/-- **Two confirmations that find their records may be exchanged.** -/
theorem exchange_resolved (hp : p.Separates) {s : Session σ} {rec rec' : Record}
    (hc : Coherent s.registry.tables)
    (hone : Coherent (s.step p (.confirm publish req)).after.registry.tables)
    (htwo : Coherent (s.step p (.confirm publish' req')).after.registry.tables)
    (hne : req.clientSecret ≠ req'.clientSecret)
    (hf : (s.registry.find req.clientSecret).1 = some rec)
    (hf' : (s.registry.find req'.clientSecret).1 = some rec') :
    s.Exchange p (.confirm publish req) (.confirm publish' req') := by
  obtain ⟨e, he, -, hkey, -, hindex⟩ := Registry.held?_of_find hc hf
  obtain ⟨e', he', -, hkey', -, hindex'⟩ := Registry.held?_of_find hc hf'
  have hids : rec.id ≠ rec'.id := fun hid =>
    hne (Registry.secret_unique hc (hid ▸ hindex) hindex')
  -- each finds its record after the other, and gets the same answers
  have hlater : ((s.step p (.confirm publish' req')).after.registry.find req.clientSecret).1 =
      some rec := (find_confirm_other hc p publish' s.remote hne).trans hf
  have hlater' : ((s.step p (.confirm publish req)).after.registry.find req'.clientSecret).1 =
      some rec' := (find_confirm_other hc p publish s.remote hne.symm).trans hf'
  have hind := ask_independent hp hids (Text.trim req.paymentMethod) (Text.trim req'.paymentMethod)
  have hremote := step_confirm_remote (p := p) publish hf
  have hremote' := step_confirm_remote (p := p) publish' hf'
  have hask := hind.first s.remote
  have hask' := hind.second s.remote
  rw [← hremote'] at hask
  rw [← hremote] at hask'
  refine ⟨step_confirm_answer hlater hf hask, step_confirm_answer hlater' hf' hask', ?_, ?_⟩
  · rw [step_confirm_remote publish' hlater', step_confirm_remote publish hlater, hremote,
      hremote', hind.state]
  · have hx := step_confirm_settles (p := p) publish hc hf he
    have hy := step_confirm_settles (p := p) publish' hc hf' he'
    have hkeys : e.key ≠ e'.key := by rwa [hkey, hkey']
    have heldx := hy.fronted.held? rec.id
    have heldy := hx.fronted.held? rec'.id
    rw [Registry.settled_key, hkey', if_neg hids, he] at heldx
    rw [Registry.settled_key, hkey, if_neg hids.symm, he'] at heldy
    have hxy := step_confirm_settles (p := p) publish' hone hlater' heldy
    have hyx := step_confirm_settles (p := p) publish htwo hlater heldx
    rw [hask'] at hxy
    rw [hask] at hyx
    exact hx.reordered hy hxy hyx hkeys

/-- **Confirmations with different secrets may be exchanged** after every run, if the provider
keeps intents apart. -/
theorem exchange_confirms (hp : p.Separates) (capacity ttl : Int) (remote : σ) (ops : List Op)
    (publish publish' : Publish) (hne : req.clientSecret ≠ req'.clientSecret) :
    ((Session.mk (Registry.new capacity ttl) remote).run p ops).Exchange p
      (.confirm publish req) (.confirm publish' req') := by
  have hc := run_coherent p capacity ttl remote ops
  have hone := run_coherent p capacity ttl remote (ops ++ [.confirm publish req])
  have htwo := run_coherent p capacity ttl remote (ops ++ [.confirm publish' req'])
  rw [run_snoc] at hone htwo
  generalize (Session.mk (Registry.new capacity ttl) remote).run p ops = s at hc hone htwo ⊢
  cases hf : (s.registry.find req.clientSecret).1 with
  | none => exact exchange_unresolved hc htwo hne hf
  | some rec =>
    cases hf' : (s.registry.find req'.clientSecret).1 with
    | none => exact (exchange_unresolved hc hone hne.symm hf').symm
    | some rec' => exact exchange_resolved hp hc hone htwo hne hf hf'

end Confirmations

end Handshake

/-! ### The sandbox keeps intents apart -/

namespace Sandbox

open Handshake (Op Session ConfirmRequest Publish)

/-- **A call is about one id**: it changes at most the holding of that id, and a change to
another holding comes out as it went in. -/
structure About {α : Type} (id : String) (f : Sandbox → α × Sandbox) : Prop where
  writes : ∀ s, (f s).2 = s ∨ ∃ h : Holding, h.intent.id = id ∧ (f s).2 = s.update h
  ignores : ∀ s (h : Holding), h.intent.id ≠ id → f (s.update h) = ((f s).1, (f s).2.update h)

theorem update_comm (s : Sandbox) {h k : Holding} (hne : h.intent.id ≠ k.intent.id) :
    (s.update h).update k = (s.update k).update h := by
  simp only [update, List.map_map]
  congr 1
  refine List.map_congr_left fun x _ => ?_
  grind

theorem find?_update_other (s : Sandbox) {h : Holding} {id : String} (hne : h.intent.id ≠ id) :
    (s.update h).find? id = s.find? id := by
  rw [find?_update, if_neg hne.symm]

/-- Calls about different ids are independent. -/
theorem About.independent {α β : Type} {id id' : String} {f : Sandbox → α × Sandbox}
    {g : Sandbox → β × Sandbox} (hf : About id f) (hg : About id' g) (hne : id ≠ id') :
    Independent f g where
  first s := by
    obtain h | ⟨k, rfl, hk⟩ := hg.writes s
    · rw [h]
    · rw [hk, hf.ignores s k hne.symm]
  second s := by
    obtain h | ⟨h, rfl, hh⟩ := hf.writes s
    · rw [h]
    · rw [hh, hg.ignores s h hne]
  state s := by
    obtain h | ⟨h, rfl, hh⟩ := hf.writes s <;> obtain k | ⟨k, rfl, hk⟩ := hg.writes s
    · rw [h, k, h]
    · rw [h, hk, hf.ignores s k hne.symm, h]
    · rw [hh, k, hh, hg.ignores s h hne, k]
    · rw [hh, hk, hf.ignores s k hne.symm, hg.ignores s h hne, hh, hk, update_comm s hne]

theorem confirm_about (id method : String) : About id (confirm id method) where
  writes s := by
    unfold confirm
    split
    · exact .inl rfl
    · rename_i h hf
      split
      · exact .inl rfl
      · simp only
        generalize (if method = "" then h.paymentMethod else method) = m
        split
        · exact .inl rfl
        · exact .inr ⟨_, (confirmed_id h m).trans (id_of_find? hf), rfl⟩
  ignores s k hne := by
    unfold confirm
    rw [find?_update_other s hne]
    split
    · rfl
    · rename_i h hf
      split
      · rfl
      · simp only
        generalize (if method = "" then h.paymentMethod else method) = m
        split
        · rfl
        · refine Prod.ext rfl (update_comm s ?_)
          rwa [confirmed_id, id_of_find? hf]

theorem attach_about (id method : String) : About id (attach method id) where
  writes s := by
    unfold attach
    split
    · exact .inl rfl
    · rename_i h hf
      split
      · exact .inl rfl
      · have hid : h.intent.id = id := id_of_find? hf
        exact .inr ⟨{ h with paymentMethod := method }, hid, rfl⟩
  ignores s k hne := by
    unfold attach
    rw [find?_update_other s hne]
    split
    · rfl
    · rename_i h hf
      split
      · rfl
      · exact Prod.ext rfl (update_comm s ((id_of_find? hf).symm ▸ hne))

/-- **The sandbox keeps intents apart.** -/
theorem provider_separates (ids : Nat → String) : (provider ids).Separates where
  confirms m m' hne := (confirm_about _ m).independent (confirm_about _ m') hne
  attaches m m' hne := (attach_about _ m).independent (attach_about _ m') hne
  mixed m m' hne := (attach_about _ m).independent (confirm_about _ m') hne

/-- **Confirmations with different secrets commute over the sandbox**, after every run, with
any bounds and any ids. -/
theorem confirms_commute (ids : Nat → String) (capacity ttl : Int) (ops : List Op)
    (publish publish' : Publish) (req req' : ConfirmRequest)
    (hne : req.clientSecret ≠ req'.clientSecret) :
    ((session capacity ttl).run (provider ids) ops).Exchange (provider ids)
      (.confirm publish req) (.confirm publish' req') :=
  Handshake.exchange_confirms (provider_separates ids) capacity ttl empty ops publish publish' hne

/-- Two intents in a full registry: one confirmation asks for the authentication step, the
other one is declined after its method was attached. -/
theorem challenged_declined_commute :
    let ids := fun n => String.ofList (Nat.toDigits 10 n)
    let purchase := fun m => Op.create (fun _ => none) ⟨.finite false 10 0, "usd", m⟩
    let s := (session 2 1000).run (provider ids)
      [purchase "", purchase "pm_card_visa", .registry (.advance 7)]
    let challenge : Op := .confirm (fun _ => none) ⟨"pi_1_secret_2", challengedMethod⟩
    let decline : Op := .confirm (fun _ => none) ⟨"pi_3_secret_4", declinedMethod⟩
    s.registry.size = 2 ∧
      (s.step (provider ids) challenge).returned? = some Status.requiresAction ∧
      (s.step (provider ids) decline).after.remote ≠ s.remote ∧
      s.Exchange (provider ids) challenge decline := by
  intro ids purchase s challenge decline
  refine ⟨by decide +kernel, by decide +kernel, by decide +kernel, ?_⟩
  exact confirms_commute ids 2 1000 _ _ _ _ _ (by decide)

end Sandbox
end PaymentGateway
