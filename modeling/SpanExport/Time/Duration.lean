import SpanExport.Number.Binary64

/-!
# Durations

The time between two instants in milliseconds, rounded once from the exact quotient.
-/

namespace SpanExport

/-- The duration is beyond the largest number. -/
inductive DurationError where
  | tooLarge
deriving DecidableEq

namespace DurationError

def message : DurationError → String
  | .tooLarge => "integer division result too large for a float"

end DurationError

/-- Milliseconds between two numbers of nanoseconds, or zero where one of them is not set. -/
def Duration.milliseconds (start finish : Option Int) : Except DurationError Binary64 :=
  match start.getD 0, finish.getD 0 with
  | 0, _ | _, 0 => .ok .zero
  | s, f =>
    match Binary64.ofIntRatio (f - s) 1000000 with
    | .infinite _ => .error .tooLarge
    | x => .ok x

end SpanExport
