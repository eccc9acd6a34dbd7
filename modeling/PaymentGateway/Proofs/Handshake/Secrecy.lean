/-
# Client secrets are opaque

A client secret is handed to the caller, given back by the caller and compared
with others; nothing else depends on it. So a run whose secrets are renamed,
injectively and with the empty one kept, is the same run: the provider is
called in the same way, the same events are published, the same lines are
logged and the same spans are ended, and the answers are the same with their
secrets renamed (`secrets_renamed`). An observer of calls, events, logs and
spans therefore learns nothing of a secret but which secrets are equal.

The renamed registry is a `Registry.relabel` of the registry. One lemma for
each operation (`create_rename`, `confirm_rename`, `round_rename`) says that the
renamed operation has the renamed outcome, and the same trace.

Key definitions: `Handshake.Cue`, `Handshake.Cue.rename`,
`Handshake.Answer.rename`.
Key theorems: `Handshake.round_rename`, `Handshake.perform_rename`,
`Handshake.secrets_renamed`.
-/
import Mathlib.Logic.Equiv.Basic
import PaymentGateway.Proofs.Handshake.Session
import PaymentGateway.Proofs.Registry.Relabelling

namespace PaymentGateway

/-! ### Other secrets -/

section Rename

variable (f : String → String)

def Intent.rename (i : Intent) : Intent := { i with clientSecret := f i.clientSecret }

/-- The script with other secrets in its replies. -/
def Script.rename (s : Script) : Script where
  create := s.create.map (Intent.rename f)
  confirm := s.confirm.map (Intent.rename f)
  attach := s.attach

def Record.rename (rec : Record) : Record := { rec with clientSecret := f rec.clientSecret }

/-- The operation on the registry with another secret. -/
def Registry.Op.rename : Registry.Op → Registry.Op
  | .put id status secret => .put id status (f secret)
  | .find secret => .find (f secret)
  | .get id => .get id
  | .advance ns => .advance ns

namespace Handshake

def ConfirmRequest.rename (req : ConfirmRequest) : ConfirmRequest :=
  { req with clientSecret := f req.clientSecret }

def Created.rename (c : Created) : Created := { c with clientSecret := f c.clientSecret }

def Confirmed.rename (c : Confirmed) : Confirmed := { c with clientSecret := f c.clientSecret }

/-- The outcome with other secrets: in the result, in the registry and in the
replies to come. The trace is the same. -/
def Outcome.rename {α : Type} (hf : Function.Injective f) (h0 : f "" = "") (g : α → α)
    (o : Outcome Script α) : Outcome Script α :=
  ⟨o.result.map g, o.registry.relabel (.ofSecrets f hf h0), o.remote.rename f, o.trace⟩

/-- The operation with another secret. A request for a new intent has none. -/
def Op.rename : Op → Op
  | .create publish req => .create publish req
  | .confirm publish req => .confirm publish (req.rename f)
  | .registry op => .registry (op.rename f)

/-- The answer with another secret: in the result, and only there. -/
def Answer.rename : Answer → Answer
  | .created result trace => .created (result.map (Created.rename f)) trace
  | .confirmed result trace => .confirmed (result.map (Confirmed.rename f)) trace
  | .found record => .found (record.map (Record.rename f))
  | .done => .done

/-- An operation with the replies that the provider has for it. -/
structure Cue where
  replies : Script
  op : Op

def Cue.rename (c : Cue) : Cue := ⟨c.replies.rename f, c.op.rename f⟩

def Cue.round (c : Cue) : Round Script := ⟨fun _ => c.replies, c.op⟩

/-- The steps of a list of operations, each with its own replies. -/
def Session.perform (s : Session Script) (cues : List Cue) : List (Step Script) :=
  s.play Script.provider (cues.map Cue.round)

end Handshake

end Rename

namespace Handshake

/-! ### The operations with other secrets -/

section Operations

variable {f : String → String} (hf : Function.Injective f) (h0 : f "" = "") (publish : Publish)
  (r : Registry) (script : Script)

/-- A creation does the same, and gets and records the other secret. -/
theorem create_rename (req : CreateRequest) :
    create Script.provider publish (r.relabel (.ofSecrets f hf h0)) (script.rename f) req =
      (create Script.provider publish r script req).rename f hf h0 (Created.rename f) := by
  unfold Outcome.rename
  cases ha : accept req with
  | error g => simp only [create, ha, Except.map]
  | ok params =>
    cases hc : script.create with
    | error g => simp [create, ha, Script.provider, Script.rename, hc, Except.map]
    | ok i =>
      have hput := Registry.put_relabel (.ofSecrets f hf h0) r i.id i.status i.clientSecret
      simp only [create, ha, Script.provider, Script.rename, hc, Except.map]
      rw [← hput]
      rfl

theorem resolve_rename (req : ConfirmRequest) :
    resolve (r.relabel (.ofSecrets f hf h0)) (req.rename f) =
      ((resolve r req).1.map (Record.rename f),
        (resolve r req).2.relabel (.ofSecrets f hf h0)) := by
  have hfind := Registry.find_relabel (.ofSecrets f hf h0) r req.clientSecret
  have hempty : f req.clientSecret = "" ↔ req.clientSecret = "" :=
    (Relabelling.ofSecrets f hf h0).secret_eq_empty_iff req.clientSecret
  have hfind' : (r.relabel (.ofSecrets f hf h0)).find (f req.clientSecret) =
      ((r.find req.clientSecret).1.map (Record.rename f),
        (r.find req.clientSecret).2.relabel (.ofSecrets f hf h0)) := hfind
  unfold resolve
  simp only [ConfirmRequest.rename, hempty, hfind']
  split
  · rfl
  · rcases r.find req.clientSecret with ⟨found, r'⟩
    cases found <;> rfl

/-- A script answers an attach without regard to the secrets in it. -/
theorem attach_rename (id method : String) :
    attach Script.provider (script.rename f) id method =
      ((attach Script.provider script id method).1, script.rename f,
        (attach Script.provider script id method).2.2) := by
  unfold attach
  split <;> rfl

theorem attach_script (id method : String) :
    attach Script.provider script id method =
      ((attach Script.provider script id method).1, script,
        (attach Script.provider script id method).2.2) := by
  unfold attach
  split <;> rfl

/-- The result has the record's secret or none. -/
theorem confirmedResult_rename (h0 : f "" = "") (rec : Record) (outcome : AttachOutcome)
    (i : Intent) : confirmedResult (rec.rename f) outcome (i.rename f) =
      (confirmedResult rec outcome i).rename f := by
  have hact : (i.rename f).requiresAction = i.requiresAction := rfl
  unfold confirmedResult Confirmed.rename
  rw [hact]
  cases i.requiresAction
  · simp [h0]
    rfl
  · rfl

/-- A confirmation of a record does the same, and gives back the other
secret if it gives back any. -/
theorem confirmRecord_rename (rec : Record) (method : String) :
    confirmRecord Script.provider publish (r.relabel (.ofSecrets f hf h0)) (script.rename f)
        (rec.rename f) method =
      (confirmRecord Script.provider publish r script rec method).rename f hf h0
        (Confirmed.rename f) := by
  have hid : (rec.rename f).id = rec.id := rfl
  unfold confirmRecord Outcome.rename
  rw [hid, attach_rename, attach_script]
  generalize (attach Script.provider script rec.id method).1 = outcome
  generalize (attach Script.provider script rec.id method).2.2 = trace
  cases hc : script.confirm with
  | error g =>
    simp only [Script.provider, Script.rename, hc, Except.map]
    rfl
  | ok i =>
    have hput := Registry.put_relabel (.ofSecrets f hf h0) r rec.id i.status rec.clientSecret
    have hres := confirmedResult_rename h0 rec outcome i
    simp only [Script.provider, Script.rename, hc, Except.map, hres]
    rw [← hput]
    rfl

theorem confirm_rename (req : ConfirmRequest) :
    confirm Script.provider publish (r.relabel (.ofSecrets f hf h0)) (script.rename f)
        (req.rename f) =
      (confirm Script.provider publish r script req).rename f hf h0 (Confirmed.rename f) := by
  unfold confirm
  rw [resolve_rename hf h0]
  rcases resolve r req with ⟨g | rec, r'⟩
  · rfl
  · exact confirmRecord_rename hf h0 publish r' script rec (Text.trim req.paymentMethod)

end Operations

/-! ### Runs with other secrets -/

section Runs

variable {f : String → String} (hf : Function.Injective f) (h0 : f "" = "")

/-- **A step with other secrets** answers with the other secrets, leaves the
same trace, and goes to the registry with the other secrets. What the provider
would have replied before does not matter. -/
theorem round_rename (r : Registry) (was is : Script) (c : Cue) :
    let st := Session.round Script.provider ⟨r, was⟩ c.round
    let st' := Session.round Script.provider ⟨r.relabel (.ofSecrets f hf h0), is⟩ (c.rename f).round
    st'.answer = st.answer.rename f ∧
      st'.after.registry = st.after.registry.relabel (.ofSecrets f hf h0) := by
  obtain ⟨script, op⟩ := c
  cases op with
  | create publish req =>
    have h := create_rename hf h0 publish r script req
    exact ⟨congrArg (fun o : Outcome Script Created => Answer.created o.result o.trace) h,
      congrArg Outcome.registry h⟩
  | confirm publish req =>
    have h := confirm_rename hf h0 publish r script req
    exact ⟨congrArg (fun o : Outcome Script Confirmed => Answer.confirmed o.result o.trace) h,
      congrArg Outcome.registry h⟩
  | registry change =>
    have hop : change.rename f = change.relabel (.ofSecrets f hf h0) := by cases change <;> rfl
    have hstep := Registry.step_relabel (.ofSecrets f hf h0) r change
    rw [← hop] at hstep
    refine ⟨?_, hstep⟩
    cases change with
    | put id status secret => rfl
    | find secret =>
      have hfind := Registry.find_relabel (.ofSecrets f hf h0) r secret
      exact congrArg (fun o => Answer.found o.1) hfind
    | get id => exact congrArg Answer.found (Registry.get?_relabel (.ofSecrets f hf h0) r id)
    | advance ns => rfl

/-- **A run with other secrets**, step by step. -/
theorem perform_rename : ∀ (cues : List Cue) (r : Registry) (was is : Script),
    (Session.perform ⟨r.relabel (.ofSecrets f hf h0), is⟩ (cues.map (Cue.rename f))).map
        (fun st => (st.answer, st.after.registry.size)) =
      (Session.perform ⟨r, was⟩ cues).map fun st => (st.answer.rename f, st.after.registry.size)
  | [], _, _, _ => rfl
  | c :: cues, r, was, is => by
    obtain ⟨hanswer, hafter⟩ := round_rename hf h0 r was is c
    -- the scripts left over differ, but the next cue brings its own
    have hrest := perform_rename cues
      (Session.round Script.provider ⟨r, was⟩ c.round).after.registry
      (Session.round Script.provider ⟨r, was⟩ c.round).after.remote
      (Session.round Script.provider ⟨r.relabel (.ofSecrets f hf h0), is⟩
        (c.rename f).round).after.remote
    rw [← hafter] at hrest
    refine congrArg₂ List.cons ?_ hrest
    simp only [hanswer, hafter, Registry.size_relabel]

end Runs

/-- **Client secrets are opaque**, for every capacity and time to live: with
every secret renamed in what the provider replies, in what is put and looked up
and in what is confirmed, every step calls the provider in the same way,
publishes, logs and traces the same, holds as many records, and answers the
same but for the secret it returns, which is the renamed one. -/
theorem secrets_renamed (f : String → String) (hf : Function.Injective f) (h0 : f "" = "")
    (capacity ttl : Int) (script : Script) (cues : List Cue) :
    let start : Session Script := ⟨Registry.new capacity ttl, script⟩
    (start.perform (cues.map (Cue.rename f))).map (fun st => (st.answer, st.after.registry.size)) =
      (start.perform cues).map fun st => (st.answer.rename f, st.after.registry.size) :=
  perform_rename hf h0 cues (Registry.new capacity ttl) script script

/-- Two secrets that trade places. One is issued, the other put on record, and
the first is confirmed: the intent it resolves to is the same. -/
theorem secrets_renamed_traded :
    let f : String → String := Equiv.swap "s1" "s2"
    let script : Script := ⟨.ok ⟨"pi_1", "s1", Status.requiresConfirmation, none⟩,
      .ok ⟨"pi_1", "s1", Status.requiresAction, some "use_stripe_sdk"⟩, none⟩
    let cues : List Cue :=
      [⟨script, .create (fun _ => none) ⟨.finite false 10 0, "usd", ""⟩⟩,
        ⟨script, .registry (.put "pi_2" Status.succeeded "s2")⟩,
        ⟨script, .confirm (fun _ => none) ⟨"s1", "pm_card_visa"⟩⟩]
    let start : Session Script := ⟨Registry.new 2 0, script⟩
    let first := start.perform cues
    let second := start.perform (cues.map (Cue.rename f))
    (first.map (·.issued?) = [some "s1", none, none] ∧
      first.map (·.target?) = [none, none, some "pi_1"]) ∧
    (second.map (·.issued?) = [some "s2", none, none] ∧
      second.map (·.target?) = [none, none, some "pi_1"]) ∧
    second.map (fun st => (st.answer, st.after.registry.size)) =
      first.map fun st => (st.answer.rename f, st.after.registry.size) := by
  intro f script cues start first second
  refine ⟨⟨by decide +kernel, by decide +kernel⟩, ⟨by decide +kernel, by decide +kernel⟩, ?_⟩
  exact secrets_renamed f (Equiv.injective _) (by decide +kernel) 2 0 script cues

end Handshake
end PaymentGateway
