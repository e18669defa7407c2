import SpanExport.Value.Fields

/-!
# Spans

A span as it is once it has ended: who it is, when it ran, what was attached to it and the
notes made while it ran. Times are nanoseconds since 1970; none, or zero, is a time that
is not set.
-/

namespace SpanExport

structure SpanContext where
  traceId : Int
  spanId : Int
deriving DecidableEq

/-- A reference to the parent, whose identifier may be missing. -/
structure SpanParent where
  spanId : Option Int
deriving DecidableEq

/-- The code is a status code, or a number or text that stands for one. -/
structure Status where
  code : Value
  description : Option String

/-- A named moment inside a span. -/
structure Note where
  name : String
  time : Option Int
  attributes : Fields

structure Span where
  name : Value
  context : Option SpanContext
  parent : Option SpanParent
  start : Option Int
  finish : Option Int
  status : Option Status
  attributes : Fields
  notes : List Note

end SpanExport
