/-
# Times to live the registry cannot run with

The sweeper ticks once in every hundredth of the time to live, in whole nanoseconds. Below a
hundred nanoseconds that leaves no time between two ticks, and the registry cannot be run
(`Registry.Runs`). Nothing keeps such a time to live out of the settings: in an environment
that makes settings, the time to live can be replaced by any duration, and only it changes
(`ReadFrom.withTtl`). So the services whose registry runs are those with no time to live or
with at least a hundred nanoseconds, and there are others (`registry_runs_iff`,
`registry_stalls`).

Key definitions: `Registry.Runs`.
Key theorems: `Registry.runs_new_iff`, `Settings.ReadFrom.withTtl`, `App.registry_runs_iff`.
-/
import PaymentGateway.Proofs.Settings.Loading

namespace PaymentGateway

/-- A registry that can be run: it has no time to live, or its sweeper has time between its
ticks. -/
def Registry.Runs (r : Registry) : Prop := r.ttl = 0 ∨ r.sweeper.period ≠ 0

theorem Registry.runs_new_iff (capacity ttl : Int) :
    (Registry.new capacity ttl).Runs ↔ ttl ≤ 0 ∨ 100 ≤ ttl := by
  have hperiod : (Registry.new capacity ttl).sweeper.period = ttl.toNat / 100 := rfl
  have httl : (Registry.new capacity ttl).ttl = ttl.toNat := rfl
  rw [Runs, hperiod, httl]
  omega

namespace Settings

variable {e e' : Environment} {s : Settings}

/-- **Any duration will do** as a time to live, and nothing else depends on it. -/
theorem ReadFrom.withTtl (h : ReadFrom e s) {d : Int}
    (hsame : ∀ name ≠ "INTENT_REGISTRY_TTL", e'.get name = e.get name)
    (hd : Duration.Spells (e'.get "INTENT_REGISTRY_TTL") d) :
    ReadFrom e' { s with registryTtl := d } := by
  have hduration : ∀ name ≠ "INTENT_REGISTRY_TTL", ∀ fallback,
      duration e' name fallback = duration e name fallback := by
    intro name hname fallback
    rw [duration, duration, hsame name hname]
  have hgetOr : ∀ name ≠ "INTENT_REGISTRY_TTL", ∀ fallback,
      e'.getOr name fallback = e.getOr name fallback := by
    intro name hname fallback
    rw [Environment.getOr, Environment.getOr, hsame name hname]
  have hkey := hsame "STRIPE_SECRET_KEY" (by decide)
  have hprovider : providerName e' = providerName e := by
    have hname : requestedProvider e' = requestedProvider e := by
      rw [requestedProvider, requestedProvider, hkey, hgetOr "PAYMENT_PROVIDER" (by decide)]
    rw [providerName, providerName, hname, hkey]
  exact
    { shutdownTimeout := (hduration _ (by decide) _).trans h.shutdownTimeout
      providerTimeout := (hduration _ (by decide) _).trans h.providerTimeout
      registryTtl := duration_iff.mpr (.inr hd)
      registryCapacity := by
        rw [capacity, hsame "INTENT_REGISTRY_CAPACITY" (by decide)]
        exact h.registryCapacity
      tracingDisabled := by
        rw [switch, hsame "OTEL_SDK_DISABLED" (by decide)]
        exact h.tracingDisabled
      provider := hprovider.trans h.provider
      serviceName := h.serviceName.trans (hgetOr _ (by decide) _).symm
      listenAddress := by
        rw [hgetOr "PORT" (by decide), hgetOr "HTTP_LISTEN_ADDR" (by decide)]
        exact h.listenAddress
      stripeSecretKey := h.stripeSecretKey.trans hkey.symm
      stripeApiUrl := h.stripeApiUrl.trans (hsame _ (by decide)).symm
      brokers := by
        rw [hsame "KAFKA_BROKERS" (by decide)]
        exact h.brokers
      paymentsTopic := h.paymentsTopic.trans (hgetOr _ (by decide) _).symm
      auditGroup := h.auditGroup.trans (hgetOr _ (by decide) _).symm
      tracesEndpoint := h.tracesEndpoint.trans (hgetOr _ (by decide) _).symm }

end Settings

namespace App

/-- **Which services have a registry that runs**: those with no time to live, or with one of
a hundred nanoseconds or more. The others are those whose environment spells a duration
between, and none of these is kept out: whatever duration an environment that makes settings
is given in its place, it makes the same settings with that time to live. -/
theorem registry_runs_iff {e : Environment} {s : Settings} (h : Settings.load e = .ok s) :
    ((registry s).Runs ↔ s.registryTtl ≤ 0 ∨ 100 ≤ s.registryTtl) ∧
    (¬ (registry s).Runs ↔
      ∃ d, Duration.Spells (e.get "INTENT_REGISTRY_TTL") d ∧ 0 < d ∧ d < 100) ∧
    ∀ e' d, (∀ name ≠ "INTENT_REGISTRY_TTL", e'.get name = e.get name) →
      Duration.Spells (e'.get "INTENT_REGISTRY_TTL") d →
      Settings.load e' = .ok { s with registryTtl := d } := by
  have hread := Settings.load_iff.mp h
  have hruns : (registry s).Runs ↔ s.registryTtl ≤ 0 ∨ 100 ≤ s.registryTtl :=
    Registry.runs_new_iff _ _
  refine ⟨hruns, ?_, fun e' d hsame hd => Settings.load_iff.mpr (hread.withTtl hsame hd)⟩
  rw [hruns]
  constructor
  · intro hbetween
    rcases Settings.duration_iff.mp hread.registryTtl with ⟨-, hzero⟩ | hspells
    · omega
    · exact ⟨_, hspells, by omega, by omega⟩
  · rintro ⟨d, hspells, hpos, hsmall⟩
    have hsame := hread.registryTtl.symm.trans (Settings.duration_iff.mpr (.inr hspells))
    cases hsame
    omega

/-- With nothing else set and the fraction of a nanosecond cut off, this is a time to live of
99: the registry does not run. -/
theorem registry_runs_iff_fraction :
    let e : Environment := [("INTENT_REGISTRY_TTL", "1ns98.9ns")]
    ∃ s, Settings.load e = .ok s ∧ s.registryTtl = 99 ∧ ¬ (registry s).Runs := by
  intro e
  have hspells : Duration.Spells (e.get "INTENT_REGISTRY_TTL") 99 :=
    Duration.read_iff.mp (by decide +kernel)
  have hsame : ∀ name ≠ "INTENT_REGISTRY_TTL", e.get name = Environment.get [] name := by
    intro name hname
    simp [e, Environment.get, List.lookup_cons, beq_eq_false_iff_ne.mpr hname]
  obtain ⟨-, -, hany⟩ := registry_runs_iff Settings.load_nil
  have hs := hany e 99 hsame hspells
  obtain ⟨-, hstalls, -⟩ := registry_runs_iff hs
  exact ⟨_, hs, rfl, hstalls.mpr ⟨99, hspells, by decide, by decide⟩⟩

/-- **A service whose sweeper has no time between its ticks**: its settings are made. -/
theorem registry_stalls :
    let e : Environment := [("INTENT_REGISTRY_TTL", "50ns")]
    let s : Settings := { Settings.defaults with registryTtl := 50 }
    Settings.load e = .ok s ∧ ¬ (s.registryTtl ≤ 0 ∨ 100 ≤ s.registryTtl) ∧
      (registry s).sweeper.period = 0 := by
  decide +kernel

end App
end PaymentGateway
