/-
# Which environments make settings, and what the settings make

Settings are read variable by variable, and the first that is not well formed ends it. Since
no variable decides how another one is read, it comes to the same as asking each of them:
the settings of an environment are those that agree with it in every part (`load_iff`), and
there are some exactly if each variable is well formed (`loads_iff`). What a variable may hold
is said by the spellings of durations and integers, not by their readers.

The settings then decide what the service is made of: the remote service is used exactly if
it is the provider asked for, with a key and a time limit that is positive whatever was set,
and events are published exactly if a broker is named (`load_exact`).

Key definitions: `Settings.flagWords`, `Settings.ReadFrom`, `Settings.defaults`.
Key theorems: `Settings.load_iff`, `Settings.loads_iff`, `App.provider_eq_stripe_iff`,
`App.publisher_ne_none_iff`, `App.load_exact`.
-/
import PaymentGateway.App
import PaymentGateway.Proofs.Sandbox.Lifecycle
import PaymentGateway.Proofs.Text.Splitting
import PaymentGateway.Proofs.Time.Duration

namespace PaymentGateway

namespace Settings

variable {e : Environment} {name : String} {s : Settings}

/-! ### One variable -/

theorem duration_iff {fallback d : Int} : duration e name fallback = .ok d ↔
    e.get name = "" ∧ d = fallback ∨ Duration.Spells (e.get name) d := by
  rw [← Duration.read_iff]
  unfold duration
  simp only
  split
  · next hempty =>
    -- the empty text spells nothing, so only the default is left
    have hread : Duration.read "" ≠ .ok d := by
      rw [show Duration.read "" = .error .invalid by decide +kernel]
      nofun
    simp [hempty, hread, eq_comm]
  · next hset =>
    simp only [hset, false_and, false_or]
    cases Duration.read (e.get name) <;> simp

theorem capacity_iff {n : Nat} : capacity e name = .ok n ↔
    e.get name = "" ∧ n = 0 ∨ Integer.Spells (e.get name) n := by
  rw [← Integer.readSigned_iff]
  unfold capacity
  simp only
  split
  · next hempty =>
    have hread : Integer.readSigned "" ≠ .ok (n : Int) := by
      rw [show Integer.readSigned "" = .error .syntactic by decide +kernel]
      nofun
    simp [hempty, hread, eq_comm]
  · next hset =>
    simp only [hset, false_and, false_or]
    cases Integer.readSigned (e.get name) with
    | error f => simp
    | ok i =>
      simp only [Except.ok.injEq]
      split
      · next hneg =>
        simp only [reduceCtorEq, false_iff]
        omega
      · next hpos =>
        simp only [Except.ok.injEq]
        omega

theorem duration_ok_iff {fallback : Int} : (∃ d, duration e name fallback = .ok d) ↔
    e.get name = "" ∨ ∃ d, Duration.Spells (e.get name) d := by
  simp only [duration_iff, exists_or, exists_and_left, exists_eq, and_true]

theorem capacity_ok_iff : (∃ n, capacity e name = .ok n) ↔
    e.get name = "" ∨ ∃ n : Nat, Integer.Spells (e.get name) n := by
  simp only [capacity_iff, exists_or, exists_and_left, exists_eq, and_true]

/-- The words for true and for false. -/
def flagWords : List String :=
  ["1", "t", "T", "true", "TRUE", "True", "0", "f", "F", "false", "FALSE", "False"]

theorem readFlag?_isSome_iff {word : String} : (readFlag? word).isSome ↔ word ∈ flagWords := by
  have hwords : flagWords = ["1", "t", "T", "true", "TRUE", "True"] ++
    ["0", "f", "F", "false", "FALSE", "False"] := rfl
  rw [hwords, List.mem_append, ← List.contains_iff_mem, ← List.contains_iff_mem]
  unfold readFlag?
  split
  · next htrue => simp only [htrue, Option.isSome_some, true_or]
  · next htrue =>
    split
    · next hfalse => simp only [hfalse, Option.isSome_some, or_true]
    · next hfalse => simp only [htrue, hfalse, Option.isSome_none, Bool.false_eq_true, or_false]

theorem switch_ok_iff :
    (∃ b, switch e name = .ok b) ↔ e.get name = "" ∨ e.get name ∈ flagWords := by
  rw [← readFlag?_isSome_iff]
  unfold switch
  simp only
  split
  · next hempty => simp [hempty]
  · next hset => cases readFlag? (e.get name) <;> simp [hset]

theorem requestedProvider_eq (e : Environment) : requestedProvider e =
    Text.lower (if e.get "PAYMENT_PROVIDER" = "" then
      (if e.get "STRIPE_SECRET_KEY" = "" then "sandbox" else "stripe")
      else e.get "PAYMENT_PROVIDER") := by
  unfold requestedProvider Environment.getOr
  split
  · split <;> rfl
  · rfl

/-- What is asked for is used, the remote service only with a key. -/
theorem providerName_iff {p : ProviderName} : providerName e = .ok p ↔
    requestedProvider e = p.text ∧ (p = .stripe → e.get "STRIPE_SECRET_KEY" ≠ "") := by
  unfold providerName
  simp only
  split
  · next hstripe =>
    rw [hstripe]
    split
    · next hkey => cases p <;> simp [hkey, ProviderName.text]
    · next hkey => cases p <;> simp [hkey, ProviderName.text]
  · next hstripe =>
    split
    · next hsandbox =>
      rw [hsandbox]
      cases p <;> simp [ProviderName.text]
    · next hsandbox =>
      simp only [reduceCtorEq, false_iff, not_and]
      cases p with
      | stripe => exact fun h => absurd h hstripe
      | sandbox => exact fun h => absurd h hsandbox

theorem providerName_ok_iff : (∃ p, providerName e = .ok p) ↔ requestedProvider e = "sandbox" ∨
    requestedProvider e = "stripe" ∧ e.get "STRIPE_SECRET_KEY" ≠ "" := by
  simp only [providerName_iff]
  constructor
  · rintro ⟨p, hp, hkey⟩
    cases p with
    | sandbox => exact .inl hp
    | stripe => exact .inr ⟨hp, hkey rfl⟩
  · rintro (hsandbox | ⟨hstripe, hkey⟩)
    · exact ⟨.sandbox, hsandbox, nofun⟩
    · exact ⟨.stripe, hstripe, fun _ => hkey⟩

/-! ### All of them -/

/-- Settings that agree with an environment in every part. -/
structure ReadFrom (e : Environment) (s : Settings) : Prop where
  shutdownTimeout : duration e "HTTP_SHUTDOWN_TIMEOUT" 5000000000 = .ok s.shutdownTimeout
  providerTimeout : duration e "PROVIDER_TIMEOUT" 80000000000 = .ok s.providerTimeout
  registryTtl : duration e "INTENT_REGISTRY_TTL" 0 = .ok s.registryTtl
  registryCapacity : capacity e "INTENT_REGISTRY_CAPACITY" = .ok s.registryCapacity
  tracingDisabled : switch e "OTEL_SDK_DISABLED" = .ok s.tracingDisabled
  provider : providerName e = .ok s.provider
  serviceName : s.serviceName = e.getOr "SERVICE_NAME" "payments-gateway"
  listenAddress : s.listenAddress = e.getOr "HTTP_LISTEN_ADDR" (":" ++ e.getOr "PORT" "4242")
  stripeSecretKey : s.stripeSecretKey = e.get "STRIPE_SECRET_KEY"
  stripeApiUrl : s.stripeApiUrl = e.get "STRIPE_API_URL"
  brokers : s.brokers = Text.nonBlankParts (e.get "KAFKA_BROKERS")
  paymentsTopic : s.paymentsTopic = e.getOr "KAFKA_PAYMENTS_TOPIC" "payments.v1"
  auditGroup : s.auditGroup = e.getOr "KAFKA_AUDIT_GROUP_ID" "intent-audit"
  tracesEndpoint : s.tracesEndpoint =
    e.getOr "OTEL_EXPORTER_OTLP_TRACES_ENDPOINT" "http://localhost:4318/v1/traces"

theorem bind_eq_ok {ε α β : Type} {x : Except ε α} {f : α → Except ε β} {b : β} :
    (x >>= f) = .ok b ↔ ∃ a, x = .ok a ∧ f a = .ok b := by
  cases x with
  | error err => simp [bind, Except.bind]
  | ok a => simp [bind, Except.bind]

/-- **The settings of an environment** are those that agree with it. -/
theorem load_iff : load e = .ok s ↔ ReadFrom e s := by
  unfold load
  -- one value for each variable that is checked, and the record made of them
  simp only [bind_eq_ok]
  constructor
  · rintro ⟨_, hshutdown, _, htimeout, _, httl, _, hcapacity, _, hswitch, _, hprovider, ⟨⟩⟩
    exact ⟨hshutdown, htimeout, httl, hcapacity, hswitch, hprovider, rfl, rfl, rfl, rfl, rfl, rfl,
      rfl, rfl⟩
  · obtain ⟨serviceName, listenAddress, shutdownTimeout, provider, key, apiUrl, providerTimeout,
      capacity, ttl, brokers, topic, group, endpoint, disabled⟩ := s
    rintro ⟨hshutdown, htimeout, httl, hcapacity, hswitch, hprovider, rfl, rfl, rfl, rfl, rfl, rfl,
      rfl, rfl⟩
    exact ⟨_, hshutdown, _, htimeout, _, httl, _, hcapacity, _, hswitch, _, hprovider, rfl⟩

theorem ReadFrom.provider_eq_stripe_iff (h : ReadFrom e s) :
    s.provider = .stripe ↔ requestedProvider e = "stripe" := by
  rw [(providerName_iff.mp h.provider).1]
  cases s.provider <;> simp [ProviderName.text]

/-- The settings when nothing is set. -/
def defaults : Settings where
  serviceName := "payments-gateway"
  listenAddress := ":4242"
  shutdownTimeout := 5000000000
  provider := .sandbox
  stripeSecretKey := ""
  stripeApiUrl := ""
  providerTimeout := 80000000000
  registryCapacity := 0
  registryTtl := 0
  brokers := []
  paymentsTopic := "payments.v1"
  auditGroup := "intent-audit"
  tracesEndpoint := "http://localhost:4318/v1/traces"
  tracingDisabled := false

theorem load_nil : load [] = .ok defaults := by decide +kernel

/-- **There are settings** exactly if every variable is well formed, whatever the others are. -/
theorem loads_iff : (∃ s, load e = .ok s) ↔
    (∃ d, duration e "HTTP_SHUTDOWN_TIMEOUT" 5000000000 = .ok d) ∧
    (∃ d, duration e "PROVIDER_TIMEOUT" 80000000000 = .ok d) ∧
    (∃ d, duration e "INTENT_REGISTRY_TTL" 0 = .ok d) ∧
    (∃ n, capacity e "INTENT_REGISTRY_CAPACITY" = .ok n) ∧
    (∃ b, switch e "OTEL_SDK_DISABLED" = .ok b) ∧ ∃ p, providerName e = .ok p := by
  constructor
  · rintro ⟨s, hs⟩
    have h := load_iff.mp hs
    exact ⟨⟨_, h.shutdownTimeout⟩, ⟨_, h.providerTimeout⟩, ⟨_, h.registryTtl⟩,
      ⟨_, h.registryCapacity⟩, ⟨_, h.tracingDisabled⟩, ⟨_, h.provider⟩⟩
  · rintro ⟨⟨_, hshutdown⟩, ⟨_, htimeout⟩, ⟨_, httl⟩, ⟨_, hcapacity⟩, ⟨_, hswitch⟩, ⟨_, hprovider⟩⟩
    unfold load
    simp only [bind_eq_ok]
    exact ⟨_, _, hshutdown, _, htimeout, _, httl, _, hcapacity, _, hswitch, _, hprovider, rfl⟩

end Settings

namespace App

variable {e : Environment} {s : Settings}

/-! ### What the service is made of -/

/-- The two providers differ: a creation in the sandbox takes ids. -/
theorem onFirst_ne_onSecond {ω : Type} [Inhabited ω] (ids : Nat → String) (p : Provider ω) :
    onFirst (Sandbox.provider ids) ≠ onSecond p := by
  intro heq
  have htaken := congrArg
    (fun q : Provider (Sandbox × ω) => (q.create ⟨1, "usd", ""⟩ (.empty, default)).2.1.taken) heq
  have haccepted : Sandbox.refuse? ⟨1, "usd", ""⟩ = none := by decide +kernel
  simp only [onFirst, onSecond, Sandbox.provider, Sandbox.create, haccepted,
    Sandbox.store_taken] at htaken
  cases htaken

theorem provider_eq_stripe_iff {ω : Type} [Inhabited ω] {ids : Nat → String}
    {wire : Stripe.Wire ω} :
    provider s ids wire = onSecond (Stripe.provider (account s) wire) ↔ s.provider = .stripe := by
  unfold provider
  cases s.provider with
  | stripe => simp
  | sandbox => simp [onFirst_ne_onSecond]

/-- Events are published if some part of the list of brokers is not blank. -/
theorem publisher_ne_none_iff (h : Settings.ReadFrom e s) : publisher s ≠ .none ↔
    ∃ part ∈ (e.get "KAFKA_BROKERS").toList.splitOn ',', ∃ c ∈ part, Text.isBlank c = false := by
  have hpublisher : publisher s ≠ .none ↔ s.brokers ≠ [] := by
    unfold publisher Settings.publishes
    cases s.brokers <;> simp
  rw [hpublisher, ne_eq, h.brokers, Text.nonBlankParts_eq_nil_iff]
  simp

/-- A request is never without a time limit. -/
theorem timeLimit_pos (a : Stripe.Account) : 0 < a.timeLimit := by
  unfold Stripe.Account.timeLimit
  split
  · decide
  · next hpos => exact Int.not_le.mp hpos

/-- **Settings are made of exactly the well-formed environments, and agree with themselves.**
An environment makes settings iff each of its three durations is empty or spells one, its
capacity is empty or spells a number that is not negative, its switch is empty or one of the
words for true and false, and the provider it names in lower case, or else the one its key
decides, is the sandbox, or the remote service with a key. The service then uses the remote
service iff that is the name, with that key and a positive time limit, and the sandbox
otherwise; and it publishes events iff a part of the list of brokers is not blank. -/
theorem load_exact {ω : Type} [Inhabited ω] (e : Environment) (ids : Nat → String)
    (wire : Stripe.Wire ω) :
    let key := e.get "STRIPE_SECRET_KEY"
    let name := Text.lower (if e.get "PAYMENT_PROVIDER" = "" then
      (if key = "" then "sandbox" else "stripe") else e.get "PAYMENT_PROVIDER")
    ((∃ s, Settings.load e = .ok s) ↔
      (∀ v ∈ ["HTTP_SHUTDOWN_TIMEOUT", "PROVIDER_TIMEOUT", "INTENT_REGISTRY_TTL"],
        e.get v = "" ∨ ∃ d, Duration.Spells (e.get v) d) ∧
      (e.get "INTENT_REGISTRY_CAPACITY" = "" ∨
        ∃ n : Nat, Integer.Spells (e.get "INTENT_REGISTRY_CAPACITY") n) ∧
      (e.get "OTEL_SDK_DISABLED" = "" ∨ e.get "OTEL_SDK_DISABLED" ∈ Settings.flagWords) ∧
      (name = "sandbox" ∨ name = "stripe" ∧ key ≠ "")) ∧
    ∀ s, Settings.load e = .ok s →
      (provider s ids wire = onSecond (Stripe.provider (account s) wire) ↔ name = "stripe") ∧
      (name ≠ "stripe" → provider s ids wire = onFirst (Sandbox.provider ids)) ∧
      (name = "stripe" →
        (account s).secretKey = key ∧ key ≠ "" ∧ 0 < (account s).timeLimit) ∧
      (publisher s ≠ .none ↔ ∃ part ∈ (e.get "KAFKA_BROKERS").toList.splitOn ',',
        ∃ c ∈ part, Text.isBlank c = false) := by
  intro key name
  have hname : Settings.requestedProvider e = name := Settings.requestedProvider_eq e
  constructor
  · simp only [Settings.loads_iff, Settings.duration_ok_iff, Settings.capacity_ok_iff,
      Settings.switch_ok_iff, Settings.providerName_ok_iff, hname, List.forall_mem_cons,
      List.not_mem_nil, false_implies, implies_true, and_true, and_assoc]
    rfl
  · intro s hs
    have h := Settings.load_iff.mp hs
    have hstripe := h.provider_eq_stripe_iff
    rw [hname] at hstripe
    refine ⟨provider_eq_stripe_iff.trans hstripe, fun hother => ?_, fun hremote => ?_,
      publisher_ne_none_iff h⟩
    · have hsandbox : s.provider = .sandbox := by
        cases hp : s.provider with
        | stripe => exact absurd (hstripe.mp hp) hother
        | sandbox => rfl
      rw [provider, hsandbox]
    · have hkey := (Settings.providerName_iff.mp h.provider).2 (hstripe.mpr hremote)
      exact ⟨h.stripeSecretKey, hkey, timeLimit_pos _⟩

/-- A provider named with a dotted capital, a negative time limit, a capacity of minus zero
and a list of brokers that is blank but for its last part. -/
theorem load_exact_unusual :
    let e : Environment := [("PAYMENT_PROVIDER", "STR\u0130PE"), ("STRIPE_SECRET_KEY", "sk"),
      ("PROVIDER_TIMEOUT", "-1.5h"), ("INTENT_REGISTRY_CAPACITY", "-0"),
      ("KAFKA_BROKERS", " ,\u3000, b ")]
    let ids := fun n => String.ofList (Nat.toDigits 10 n)
    ∃ s, Settings.load e = .ok s ∧ s.providerTimeout = -5400000000000 ∧
      provider s ids Stripe.Tape.wire = onSecond (Stripe.provider (account s) Stripe.Tape.wire) ∧
      (account s).secretKey = "sk" ∧ 0 < (account s).timeLimit ∧ publisher s ≠ .none := by
  intro e ids
  have hs : Settings.load e = .ok { Settings.defaults with
      provider := .stripe, stripeSecretKey := "sk", providerTimeout := -5400000000000
      brokers := ["b"] } := by decide +kernel
  have : Inhabited Stripe.Tape := ⟨⟨[], []⟩⟩
  obtain ⟨hprovider, -, haccount, hpublisher⟩ := (load_exact e ids Stripe.Tape.wire).2 _ hs
  obtain ⟨hkey, -, hlimit⟩ := haccount (by decide +kernel)
  have hpart : [' ', 'b', ' '] ∈ (e.get "KAFKA_BROKERS").toList.splitOn ',' := by decide +kernel
  have hbroker := hpublisher.mpr ⟨_, hpart, 'b', by decide, by decide⟩
  exact ⟨_, hs, rfl, hprovider.mpr (by decide +kernel), hkey, hlimit, hbroker⟩

end App
end PaymentGateway
