import SpanExport.Proofs.Traversal
import SpanExport.Tracing.Sdk

/-!
# What providers are made with

The SDK may read anything from the environment. A result that needs more says so by name: that the
SDK accepts what it reads, that it records every span, or that it keeps all of one besides. Its
documented defaults do all of this.
-/

namespace SpanExport

/-- No span is dropped unless its parent was. -/
def Sampling.Policy.KeepsAll (policy : Policy) : Prop :=
  ∀ parent traceId, parent ≠ some false → policy.keeps parent traceId = true

/-- As many attributes are kept as by default, and their values as they are. -/
structure AttributeLimits.IsAmple (limits : AttributeLimits) : Prop where
  count : ∀ n ∈ limits.count, keptLimit ≤ n
  shorten : ∀ value, limits.shorten value = value

structure SpanLimits.IsAmple (limits : SpanLimits) : Prop where
  attributes : limits.attributes.IsAmple
  notes : ∀ n ∈ limits.notes, keptLimit ≤ n

structure ProviderSettings.RecordsAll (settings : ProviderSettings) : Prop where
  keepsAll : settings.sampler.KeepsAll
  isEnabled : settings.isDisabled = false

theorem Sampling.Sampler.always_keepsAll : Sampler.always.policy.KeepsAll := by
  intro parent traceId hparent
  cases parent with
  | none => rfl
  | some isSampled =>
    cases isSampled with
    | false => exact absurd rfl hparent
    | true => rfl

namespace Sdk

/-- There is nothing in the environment that the SDK refuses. -/
structure Accepts (sdk : Sdk) (env : Environment) : Prop where
  sampler_isOk : ∃ policy, sdk.sampler env = .ok policy
  limits_isOk : ∃ limits, sdk.limits env = .ok limits

/-- Every span is recorded where no sampler is given. -/
structure RecordsAll (sdk : Sdk) (env : Environment) : Prop where
  keepsAll : ∀ policy, sdk.sampler env = .ok policy → policy.KeepsAll
  isEnabled : sdk.isDisabled env = false

/-- The SDK works in the environment as it does by default, or keeps even more of a span. -/
structure IsAmple (sdk : Sdk) (env : Environment) : Prop extends
    sdk.Accepts env, sdk.RecordsAll env where
  limits_isAmple : ∀ limits, sdk.limits env = .ok limits → limits.IsAmple

theorem standard_isAmple (env : Environment) : standard.IsAmple env where
  sampler_isOk := ⟨_, rfl⟩
  limits_isOk := ⟨_, rfl⟩
  keepsAll := by
    rintro _ ⟨⟩
    exact Sampling.Sampler.always_keepsAll
  isEnabled := rfl
  limits_isAmple := by
    rintro _ ⟨⟩
    exact ⟨⟨by simp, fun _ => rfl⟩, by simp⟩

variable {sdk : Sdk} {env : Environment} {sampler : Sampling.Sampler} {settings : ProviderSettings}

theorem settings_eq_ok :
    sdk.settings env sampler = .ok settings ↔
      sdk.policyFor env sampler = .ok settings.sampler ∧ sdk.limits env = .ok settings.limits ∧
        sdk.isDisabled env = settings.isDisabled := by
  simp only [Sdk.settings, bind_eq_ok, pure, Except.pure, Except.ok.injEq]
  constructor
  · rintro ⟨policy, hpolicy, limits, hlimits, rfl⟩
    exact ⟨hpolicy, hlimits, rfl⟩
  · rintro ⟨hpolicy, hlimits, hdisabled⟩
    exact ⟨_, hpolicy, _, hlimits, by rw [hdisabled]⟩

theorem Accepts.policy_isOk (h : sdk.Accepts env) (sampler : Sampling.Sampler) :
    ∃ policy, sdk.policyFor env sampler = .ok policy := by
  cases sampler with
  | always => exact h.sampler_isOk
  | ratio fraction => exact ⟨_, rfl⟩

theorem Accepts.settings_isOk (h : sdk.Accepts env) (sampler : Sampling.Sampler) :
    ∃ settings, sdk.settings env sampler = .ok settings := by
  obtain ⟨policy, hpolicy⟩ := h.policy_isOk sampler
  obtain ⟨limits, hlimits⟩ := h.limits_isOk
  exact ⟨⟨policy, limits, sdk.isDisabled env⟩, settings_eq_ok.2 ⟨hpolicy, hlimits, rfl⟩⟩

namespace RecordsAll

theorem isDisabled (h : sdk.RecordsAll env) (hs : sdk.settings env sampler = .ok settings) :
    settings.isDisabled = false :=
  (settings_eq_ok.1 hs).2.2.symm.trans h.isEnabled

theorem always (h : sdk.RecordsAll env) (hs : sdk.settings env .always = .ok settings) :
    settings.RecordsAll :=
  ⟨h.keepsAll _ (settings_eq_ok.1 hs).1, h.isDisabled hs⟩

/-- A root span fares as with the sampler that goes with the fraction. -/
theorem keeps_root (h : sdk.RecordsAll env) (hs : sdk.settings env sampler = .ok settings)
    (traceId : Int) : settings.sampler.keeps none traceId = sampler.keeps traceId := by
  cases sampler with
  | always => exact (h.always hs).keepsAll none traceId nofun
  | ratio fraction =>
    have hpolicy := Except.ok.inj (settings_eq_ok.1 hs).1
    rw [← hpolicy]
    rfl

end RecordsAll

theorem IsAmple.limits (h : sdk.IsAmple env) (hs : sdk.settings env sampler = .ok settings) :
    settings.limits.IsAmple :=
  h.limits_isAmple _ (settings_eq_ok.1 hs).2.1

end Sdk

end SpanExport
