/-
# Which configurations of the vault are complete

The vault is used if an address, a token and a path are given. They are trimmed before they
are used, and what they are tested for comes at different points: the path is tested after
its slashes are gone, the address before, and the mount is only replaced by its default when
it is not given at all. So a configuration may lack an address or a mount: exactly if the
environment has nothing but slashes there (`complete_iff`). All else that is asked of it
holds always: the token and the path are there, and no part has slashes at its ends.

Key theorems: `Vault.Config.ofEnvironment?_isSome_iff`, `Vault.Config.complete_iff`.
-/
import PaymentGateway.Proofs.Text.Trimming
import PaymentGateway.Vault

namespace PaymentGateway
namespace Vault
namespace Config

variable {e : Environment} {c : Config}

/-- **When the vault is used**: there is something in the address but white space, a token,
and something in the path but slashes. -/
theorem ofEnvironment?_isSome_iff : (ofEnvironment? e).isSome ↔
    ¬ (∀ ch ∈ (e.get "OPENBAO_ADDR").toList, Text.isBlank ch = true) ∧
      e.get "OPENBAO_TOKEN" ≠ "" ∧ ¬ Text.OnlySlashes (e.get "OPENBAO_SECRET_PATH") := by
  rw [← Text.trim_eq_empty_iff, ← Text.trimSlashes_eq_empty_iff]
  unfold ofEnvironment?
  simp only
  split
  · next hmissing =>
    simp only [Bool.or_eq_true, decide_eq_true_eq, or_assoc] at hmissing
    simp only [Option.isSome_none, Bool.false_eq_true, false_iff]
    rintro ⟨haddress, htoken, hpath⟩
    exact hmissing.elim haddress (Or.rec htoken hpath)
  · next hmissing =>
    simpa [not_or, and_assoc] using hmissing

/-- What a configuration holds. -/
theorem eq_of_ofEnvironment? (h : ofEnvironment? e = some c) : c =
    { address := Text.trimEndSlashes (Text.trim (e.get "OPENBAO_ADDR"))
      token := e.get "OPENBAO_TOKEN"
      mount := Text.trimSlashes (Text.trim (e.getOr "OPENBAO_MOUNT" "secret"))
      path := Text.trimSlashes (Text.trim (e.get "OPENBAO_SECRET_PATH"))
      scope := Text.trim (e.get "OPENBAO_NAMESPACE") } := by
  unfold ofEnvironment? at h
  simp only at h
  split at h
  · cases h
  · exact (Option.some.inj h).symm

theorem onlySlashes_getOr {name fallback : String} (hf : ¬ Text.OnlySlashes fallback) :
    Text.OnlySlashes (e.getOr name fallback) ↔
      e.get name ≠ "" ∧ Text.OnlySlashes (e.get name) := by
  unfold Environment.getOr
  split
  · next hempty => simp [hempty, hf]
  · next hempty => simp [hempty]

theorem not_onlySlashes_secret : ¬ Text.OnlySlashes "secret" := by
  rw [← Text.trimSlashes_eq_empty_iff]
  decide +kernel

/-- **When a configuration is complete.** The vault is used exactly if the address is not
blank, there is a token and the path is not only slashes. Then the token and the path are not
empty, the address has no slash at its end, and the mount and the path have none at either
end; but the address is empty if the environment has only slashes there, and so is the mount
if it is given as only slashes or white space, and in no other case. -/
theorem complete_iff (e : Environment) :
    ((ofEnvironment? e).isSome ↔
      ¬ (∀ ch ∈ (e.get "OPENBAO_ADDR").toList, Text.isBlank ch = true) ∧
        e.get "OPENBAO_TOKEN" ≠ "" ∧ ¬ Text.OnlySlashes (e.get "OPENBAO_SECRET_PATH")) ∧
    ∀ c, ofEnvironment? e = some c →
      c.token ≠ "" ∧ c.path ≠ "" ∧ c.address.toList.getLast? ≠ some '/' ∧
      Text.Bare (· == '/') c.mount.toList ∧ Text.Bare (· == '/') c.path.toList ∧
      (c.address = "" ↔ Text.OnlySlashes (e.get "OPENBAO_ADDR")) ∧
      (c.mount = "" ↔
        e.get "OPENBAO_MOUNT" ≠ "" ∧ Text.OnlySlashes (e.get "OPENBAO_MOUNT")) := by
  refine ⟨ofEnvironment?_isSome_iff, fun c hc => ?_⟩
  obtain ⟨-, htoken, hpath⟩ := ofEnvironment?_isSome_iff.mp (Option.isSome_of_eq_some hc)
  rw [eq_of_ofEnvironment? hc]
  refine ⟨htoken, mt Text.trimSlashes_eq_empty_iff.mp hpath, Text.getLast?_trimEndSlashes _,
    Text.bare_trimSlashes _, Text.bare_trimSlashes _, Text.trimEndSlashes_eq_empty_iff, ?_⟩
  rw [Text.trimSlashes_eq_empty_iff]
  exact onlySlashes_getOr not_onlySlashes_secret

/-- A configuration with white space and slashes around all its parts, and some inside. -/
theorem complete_iff_padded :
    let e : Environment := [("OPENBAO_ADDR", " http://bao:8200// "), ("OPENBAO_TOKEN", "t"),
      ("OPENBAO_SECRET_PATH", "\t/a//b/\u3000"), ("OPENBAO_MOUNT", "/ kv/")]
    ∃ c, ofEnvironment? e = some c ∧ c.path ≠ "" ∧ c.address ≠ "" ∧ c.mount ≠ "" := by
  intro e
  have hc : ofEnvironment? e = some ⟨"http://bao:8200", "t", " kv", "a//b", ""⟩ := by decide +kernel
  obtain ⟨-, hpath, -, -, -, -, -⟩ := (complete_iff e).2 _ hc
  exact ⟨_, hc, hpath, by decide, by decide⟩

/-- **A configuration without address and mount**, where they are slashes only; the path and
the token are as they should be. -/
theorem incomplete_config :
    let e : Environment := [("OPENBAO_ADDR", " / "), ("OPENBAO_TOKEN", "t"),
      ("OPENBAO_SECRET_PATH", "/a/"), ("OPENBAO_MOUNT", " ")]
    ofEnvironment? e = some ⟨"", "t", "", "a", ""⟩ := by
  decide +kernel

end Config
end Vault
end PaymentGateway
