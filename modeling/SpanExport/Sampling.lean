import SpanExport.Value.Quantity

/-!
# Sampling

A fraction of all traces is kept. The rate is the number of events that a kept one stands for,
and the sampler decides by the low 64 bits of a trace's identifier.
-/

namespace SpanExport.Sampling

/-- The inverse of the fraction, rounded to an integer. Nothing is reported for a fraction of
zero, or one whose inverse is not finite. -/
def rate? (fraction : Quantity) : Option Int :=
  if fraction.isZero then none else fraction.inverse.round?

/-- The rate for a fraction as an application gives it. -/
def rate (fraction : Value) : Except QuantityError (Option Int) := rate? <$> fraction.divisor

/-- How a provider samples. It is told whether the parent of a span is sampled, if there is one, and
which trace the span belongs to. -/
structure Policy where
  description : String
  keeps : Option Bool → Int → Bool

/-- The samplers that go with a fraction. A provider is given none of its own where all is kept. -/
inductive Sampler where
  | always
  | ratio (fraction : Binary64)

namespace Sampler

/-- Nothing needs to be sampled out unless the fraction lies strictly between zero and one,
which no integer does. -/
def ofFraction : Quantity → Sampler
  | .float x => if x.isProperFraction then .ratio x else .always
  | _ => .always

def ofValue (fraction : Value) : Except QuantityError Sampler :=
  ofFraction <$> fraction.comparand "<"

/-- How many values the low 64 bits have. -/
def traceSpace : Nat := Nat.pow 2 64

/-- Of all values of the low bits, as many as this are kept. -/
def bound : Binary64 → Nat
  | .finite _ mant exp _ => roundDiv (Binary64.units mant exp * traceSpace) unitsPerOne
  | _ => 0

/-- A root span of this trace is kept. -/
def keeps (sampler : Sampler) (traceId : Int) : Bool :=
  match sampler with
  | .always => true
  | .ratio fraction => traceId % traceSpace < bound fraction

def rootName : Sampler → String
  | .always => "AlwaysOnSampler"
  | .ratio fraction => "TraceIdRatioBased\x7b" ++ fraction.text ++ "\x7d"

/-- A root span asks the sampler and any other follows its parent. -/
def description (sampler : Sampler) : String :=
  "ParentBased\x7broot:" ++ sampler.rootName ++ ",remoteParentSampled:AlwaysOnSampler," ++
    "remoteParentNotSampled:AlwaysOffSampler,localParentSampled:AlwaysOnSampler," ++
    "localParentNotSampled:AlwaysOffSampler\x7d"

def policy (sampler : Sampler) : Policy where
  description := sampler.description
  keeps parent traceId := parent.getD (sampler.keeps traceId)

end Sampler

end SpanExport.Sampling
