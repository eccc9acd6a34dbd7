/-
# Currencies in the sandbox

A currency must have three bytes, and is kept in lower case. The length is that of the
currency as it was given: the lower case may be shorter or longer (`Text.length_lower_iff`),
and it is what the sandbox holds from then on. So the currency of an intent has three bytes
exactly if the one it was created with holds none of the characters that lower-casing
resizes. The Kelvin sign is the extreme case: three bytes that are kept as one `k`, which the
sandbox itself would refuse (`short_currency`).

That a currency is held at all goes back to a creation (`mem_performAll`): one operation
leaves a holding its amount and currency or brings in that of an accepted creation
(`mem_perform`).

Key definitions: `Sandbox.Holding.Asked`.
Key theorems: `Sandbox.mem_perform`, `Sandbox.mem_performAll`, `Sandbox.currency_bytes_iff`.
-/
import PaymentGateway.Proofs.Sandbox.Operations
import PaymentGateway.Proofs.Text.CaseWidth

namespace PaymentGateway
namespace Sandbox

variable {ids : Nat → String} {s : Sandbox} {h h' : Holding} {params : CreateParams}

/-! ### What is accepted -/

theorem refuse?_eq_none_iff : refuse? params = none ↔
    1 ≤ params.amount ∧ (Text.Utf8.bytes params.currency).length = 3 := by
  unfold refuse?
  split
  · next hamount => simp [Int.not_le.mpr hamount]
  · next hamount =>
    have hpos : 1 ≤ params.amount := Int.not_lt.mp hamount
    split
    · next hlength => simp [hlength]
    · next hlength => simp [hpos, not_not.mp hlength]

theorem create_accepted (ids : Nat → String) (s : Sandbox) (hr : refuse? params = none) :
    (create ids params s).1 =
      .ok (newHolding (ids (s.taken + 1)) (ids (s.taken + 2)) params).intent := by
  simp only [create, hr]

theorem accepted_of_create {i : Intent} (hok : (create ids params s).1 = .ok i) :
    refuse? params = none := by
  cases hr : refuse? params with
  | none => rfl
  | some f => simp [create, hr] at hok

/-! ### Where the holdings come from -/

theorem mem_update (hm : h' ∈ (s.update h).holdings) : h' ∈ s.holdings ∨ h' = h := by
  obtain ⟨x, hx, rfl⟩ := List.mem_map.mp hm
  split
  · exact .inr rfl
  · exact .inl hx

theorem mem_store (hm : h' ∈ (s.store h).holdings) : h' ∈ s.holdings ∨ h' = h := by
  unfold store at hm
  split at hm
  · exact mem_update hm
  · simpa using hm

theorem mem_of_find? {id : String} (hf : s.find? id = some h) : h ∈ s.holdings :=
  List.mem_of_find?_eq_some hf

/-- The holding of an intent that was accepted with these parameters. -/
structure Holding.Asked (h : Holding) (params : CreateParams) : Prop where
  accepted : refuse? params = none
  amount : h.amount = params.amount
  currency : h.currency = Text.lower params.currency

theorem Holding.Asked.kept (ha : h.Asked params) (hk : h.Kept h') : h'.Asked params where
  accepted := ha.accepted
  amount := hk.amount.trans ha.amount
  currency := hk.currency.trans ha.currency

/-- The currency of an intent has three bytes iff none of its characters was resized. -/
theorem Holding.Asked.bytes_iff (ha : h.Asked params) :
    (Text.Utf8.bytes h.currency).length = 3 ↔
      ∀ c ∈ params.currency.toList, c.toNat ∉ Text.resizedCodes := by
  have hlength := (refuse?_eq_none_iff.mp ha.accepted).2
  have hlower := Text.length_lower_iff (Nat.le_of_eq hlength)
  rw [hlength] at hlower
  rw [ha.currency]
  exact hlower

/-- **One operation** brings in no holding but that of an accepted creation; all others were
there and keep their amount and currency. -/
theorem mem_perform (op : Operation) (hm : h' ∈ (s.perform ids op).holdings) :
    (∃ h ∈ s.holdings, h.Kept h') ∨ ∃ params, op = .create params ∧ h'.Asked params := by
  have hsame : h' ∈ s.holdings → ∃ h ∈ s.holdings, h.Kept h' := fun hx => ⟨h', hx, .refl h'⟩
  cases op with
  | create params =>
    have hp : s.perform ids (.create params) = (create ids params s).2 := rfl
    rcases create_cases ids params s with hrefused | ⟨haccepted, hstore⟩
    · rw [hp, hrefused] at hm
      exact .inl (hsame hm)
    · rw [hp, hstore] at hm
      rcases mem_store hm with hold | rfl
      · exact .inl (hsame hold)
      · exact .inr ⟨params, rfl, haccepted, rfl, rfl⟩
  | confirm id method =>
    have hp : s.perform ids (.confirm id method) = (confirm id method s).2 := rfl
    rw [hp] at hm
    cases hf : s.find? id with
    | none =>
      simp only [confirm, hf] at hm
      exact .inl (hsame hm)
    | some h =>
      rcases confirm_cases hf method with ⟨-, message, hc⟩ | ⟨hopen, hc⟩
      · rw [hc] at hm
        exact .inl (hsame hm)
      · rw [hc] at hm
        rcases mem_update hm with hold | rfl
        · exact .inl (hsame hold)
        · have hkept := (confirmed_becomes (.confirm id method) hopen (s.effective id method)).kept
          exact .inl ⟨h, mem_of_find? hf, hkept⟩
  | attach method id =>
    have hp : s.perform ids (.attach method id) = (attach method id s).2 := rfl
    rw [hp] at hm
    unfold attach at hm
    split at hm
    · exact .inl (hsame hm)
    · next h hf =>
      split at hm
      · exact .inl (hsame hm)
      · rcases mem_update hm with hold | rfl
        · exact .inl (hsame hold)
        · exact .inl ⟨h, mem_of_find? hf, rfl, rfl, rfl, rfl⟩

/-- **A run**: what is held was there before, or was asked for in the run. -/
theorem mem_performAll : ∀ (ops : List Operation) {s : Sandbox} {h' : Holding},
    h' ∈ (s.performAll ids ops).holdings →
    (∃ h ∈ s.holdings, h.Kept h') ∨ ∃ params, .create params ∈ ops ∧ h'.Asked params
  | [], _, h', hm => .inl ⟨h', hm, .refl h'⟩
  | op :: ops, s, h', hm => by
    rcases mem_performAll ops (s := s.perform ids op) hm with ⟨x, hx, hkept⟩ | ⟨params, hmem, ha⟩
    · rcases mem_perform op hx with ⟨h, hh, hfirst⟩ | ⟨params, rfl, ha⟩
      · exact .inl ⟨h, hh, hfirst.trans hkept⟩
      · exact .inr ⟨params, List.mem_cons_self, ha.kept hkept⟩
    · exact .inr ⟨params, List.mem_cons_of_mem _ hmem, ha⟩

theorem performAll_append (before after : List Operation) :
    s.performAll ids (before ++ after) = (s.performAll ids before).performAll ids after :=
  List.foldl_append

/-- A creation that succeeds is held as it was asked for, through every further run. -/
theorem performAll_asked {i : Intent} {more : List Operation} (hs : Settled ids s)
    (hd : DistinctIds ids (s.performAll ids (.create params :: more)).taken)
    (hok : (create ids params s).1 = .ok i) :
    ∃ h, (s.performAll ids (.create params :: more)).find? i.id = some h ∧ h.Asked params := by
  obtain ⟨new, hi, hnew, hstore⟩ := create_ok hok
  have hasked : new.Asked params := by
    rw [hnew]
    exact ⟨accepted_of_create hok, rfl, rfl⟩
  have hfound : (s.perform ids (.create params)).find? i.id = some new := by
    show (create ids params s).2.find? i.id = some new
    rw [hstore, find?_store, ← hi, if_pos rfl]
  have hsettled : Settled ids (s.perform ids (.create params)) :=
    hs.perform _ (hd.mono (performAll_taken_le ids more _))
  obtain ⟨h, hf, hkept, -⟩ := performAll_keeps more hsettled hd hfound
  exact ⟨h, hf, hasked.kept hkept⟩

/-! ### Three bytes -/

/-- **The currency of an intent has three bytes iff no character of it was resized.** After
every run of operations with any arguments, every currency held is the lower case of a
currency of three bytes that an intent was created with, and has three bytes itself exactly
if none of the 25 characters was in it. And every creation that succeeds is among them: its
intent is held with that currency after every further run, if the ids taken are distinct. -/
theorem currency_bytes_iff (ids : Nat → String) (ops : List Operation) :
    (∀ h ∈ (empty.performAll ids ops).holdings, ∃ params, .create params ∈ ops ∧
      (Text.Utf8.bytes params.currency).length = 3 ∧ h.currency = Text.lower params.currency ∧
      ((Text.Utf8.bytes h.currency).length = 3 ↔
        ∀ c ∈ params.currency.toList, c.toNat ∉ Text.resizedCodes)) ∧
    ∀ before params more i, ops = before ++ .create params :: more →
      (create ids params (empty.performAll ids before)).1 = .ok i →
      DistinctIds ids (empty.performAll ids ops).taken →
      ∃ h, (empty.performAll ids ops).find? i.id = some h ∧
        h.currency = Text.lower params.currency ∧
        ((Text.Utf8.bytes h.currency).length = 3 ↔
          ∀ c ∈ params.currency.toList, c.toNat ∉ Text.resizedCodes) := by
  constructor
  · intro h hm
    rcases mem_performAll ops hm with ⟨x, hx, -⟩ | ⟨params, hmem, ha⟩
    · cases hx
    · have hlength := (refuse?_eq_none_iff.mp ha.accepted).2
      exact ⟨params, hmem, hlength, ha.currency, ha.bytes_iff⟩
  · rintro before params more i rfl hok hd
    rw [performAll_append] at hd ⊢
    have hbefore : Settled ids (empty.performAll ids before) :=
      (settled_empty ids).performAll before (hd.mono (performAll_taken_le ids _ _))
    obtain ⟨h, hf, ha⟩ := performAll_asked hbefore hd hok
    exact ⟨h, hf, ha.currency, ha.bytes_iff⟩

/-- A currency with a capital letter of two bytes keeps its length, through a challenge. -/
theorem currency_bytes_accented :
    let ids := fun n => String.ofList (Nat.toDigits 10 n)
    let before : List Operation := [.create ⟨1, "usd", ""⟩]
    let params : CreateParams := ⟨500, "XÉ", ""⟩
    let more : List Operation := [.confirm "pi_3" challengedMethod]
    let s := empty.performAll ids (before ++ .create params :: more)
    DistinctIds ids s.taken ∧ ∃ i h, (create ids params (empty.performAll ids before)).1 = .ok i ∧
      i.id = "pi_3" ∧ s.find? i.id = some h ∧ h.currency = "xé" ∧
      (Text.Utf8.bytes h.currency).length = 3 := by
  intro ids before params more s
  have hd : DistinctIds ids s.taken := by decide +kernel
  have hok := create_accepted ids (empty.performAll ids before)
    (refuse?_eq_none_iff.mpr (by decide +kernel : 1 ≤ params.amount ∧
      (Text.Utf8.bytes params.currency).length = 3))
  obtain ⟨h, hf, hcurrency, hbytes⟩ :=
    (currency_bytes_iff ids _).2 before params more _ rfl hok hd
  have hchars : params.currency.toList = ['X', 'É'] := by decide +kernel
  have hplain : ∀ c ∈ params.currency.toList, c.toNat ∉ Text.resizedCodes := by
    simp [hchars, Text.resizedCodes]
  refine ⟨hd, _, h, hok, by decide +kernel, hf, ?_, hbytes.mpr hplain⟩
  rw [hcurrency]
  decide +kernel

/-- **A currency of one byte and one of four**: the Kelvin sign and a stroked `A` are
accepted, and what is held of them has another length; the sandbox would refuse it. -/
theorem short_currency :
    let ids := fun n => String.ofList (Nat.toDigits 10 n)
    let s := empty.performAll ids [.create ⟨100, "\u212A", ""⟩, .create ⟨100, "\u023Ax", ""⟩]
    (s.find? "pi_1").map (·.currency) = some "k" ∧ (Text.Utf8.bytes "k").length = 1 ∧
      (refuse? ⟨100, "k", ""⟩).isSome ∧
      (s.find? "pi_3").map (·.currency) = some "\u2C65x" ∧
      (Text.Utf8.bytes "\u2C65x").length = 4 ∧ (refuse? ⟨100, "\u2C65x", ""⟩).isSome ∧
      ¬ ∀ h ∈ s.holdings, (Text.Utf8.bytes h.currency).length = 3 := by
  decide +kernel

end Sandbox
end PaymentGateway
