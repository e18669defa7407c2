/-!
# Sources

A source gives one item after the other: readings of a clock, or fresh identifiers.
-/

namespace SpanExport

structure Source (α : Type) where
  item : Nat → α
  taken : Nat := 0

namespace Source

variable {α : Type}

def head (s : Source α) : α := s.item s.taken

def tail (s : Source α) : Source α := { s with taken := s.taken + 1 }

end Source

end SpanExport
