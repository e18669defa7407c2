import SpanExport.Delivery.Failure
import SpanExport.Sampling

/-!
# The OpenTelemetry SDK

Providers, spans and processors are those of `opentelemetry-sdk`. When it makes a provider it reads
variables of its own from the environment: `OTEL_TRACES_SAMPLER` where the provider is given no
sampler, the `OTEL_*_LIMIT` of its spans, and `OTEL_SDK_DISABLED`. How it reads them is left open. An
`Sdk` may be any such reading, also one that refuses what it reads; `Sdk.standard` is the documented
one for an environment that sets none of them.
-/

namespace SpanExport

/-! ## Limits -/

/-- The most attributes and the most notes that are kept, unless the environment says otherwise. -/
def keptLimit : Nat := 128

/-- How many attributes are kept, if not all, and what is left of their values. -/
structure AttributeLimits where
  count : Option Nat := some keptLimit
  shorten : Value → Value := id

structure SpanLimits where
  attributes : AttributeLimits := {}
  notes : Option Nat := some keptLimit
  noteAttributes : AttributeLimits := {}

/-! ## Providers -/

/-- What a provider is made with. One that is disabled records nothing. -/
structure ProviderSettings where
  sampler : Sampling.Policy
  limits : SpanLimits
  isDisabled : Bool

structure Sdk where
  /-- The sampler of a provider that is given none. -/
  sampler : Environment → Except Failure Sampling.Policy
  limits : Environment → Except Failure SpanLimits
  isDisabled : Environment → Bool

namespace Sdk

def standard : Sdk where
  sampler _ := .ok Sampling.Sampler.always.policy
  limits _ := .ok {}
  isDisabled _ := false

def policyFor (sdk : Sdk) (env : Environment) :
    Sampling.Sampler → Except Failure Sampling.Policy
  | .always => sdk.sampler env
  | sampler@(.ratio _) => .ok sampler.policy

def settings (sdk : Sdk) (env : Environment) (sampler : Sampling.Sampler) :
    Except Failure ProviderSettings := do
  return {
    sampler := ← sdk.policyFor env sampler
    limits := ← sdk.limits env
    isDisabled := sdk.isDisabled env }

end Sdk

end SpanExport
