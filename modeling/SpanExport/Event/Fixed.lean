import SpanExport.Identifier
import SpanExport.Value.Fields
import SpanExport.Span
import SpanExport.Time.Duration

/-!
# The fixed part of an event

What every event says about its span, or about a note and the span it was made on. The
parent and the time are left out where there are none.
-/

namespace SpanExport

/-! ## Names of fields -/

namespace FieldName

def traceId := "trace.trace_id"
def spanId := "trace.span_id"
def parentId := "trace.parent_id"
def note := "trace.annotation"
def name := "name"
def durationMs := "duration_ms"
def timestamp := "timestamp"
def serviceName := "service_name"
def statusCode := "status_code"
def statusDescription := "status_description"

end FieldName

/-- Why a span or a note has no fixed part. -/
inductive FixedError where
  | noContext
  | noTime (kind : String)
  | duration (cause : DurationError)
  | timestamp (cause : TimestampError)
deriving DecidableEq

namespace FixedError

def message : FixedError → String
  | .noContext => "'NoneType' object has no attribute 'trace_id'"
  | .noTime kind => "'" ++ kind ++ "' object has no attribute 'isoformat'"
  | .duration cause => cause.message
  | .timestamp cause => cause.message

end FixedError

/-- The context of a span, without which nothing can be said about it. -/
def Span.knownContext (span : Span) : Except FixedError SpanContext :=
  match span.context with
  | some context => .ok context
  | none => .error .noContext

def givenTime : Value → Except FixedError (Option Timestamp)
  | .null => .ok none
  | .timestamp t => .ok (some t)
  | v => .error (.noTime v.kind)

def timestampPairs (time : Option Timestamp) : List (String × Value) :=
  match time with
  | some t => [(FieldName.timestamp, .text t.text)]
  | none => []

/-! ## Spans -/

structure SpanEvent where
  traceId : Value
  name : Value
  spanId : Value
  parentId : Value := .text ""
  durationMs : Value := .float .zero
  timestamp : Option Timestamp := none

namespace SpanEvent

/-- The identifier of the parent, or nothing for a root. -/
def parentText (parent : Option SpanParent) : String :=
  match parent.bind SpanParent.spanId with
  | none | some 0 => ""
  | some id => Identifier.spanText id

def ofSpan (span : Span) : Except FixedError SpanEvent := do
  let context ← span.knownContext
  let duration ← (Duration.milliseconds span.start span.finish).mapError .duration
  let timestamp ← (Timestamp.ofNanoseconds span.start).mapError .timestamp
  return {
    traceId := .text (Identifier.traceText context.traceId)
    name := span.name
    spanId := .text (Identifier.spanText context.spanId)
    parentId := .text (parentText span.parent)
    durationMs := .float duration
    timestamp }

def toPairs (event : SpanEvent) : List (String × Value) :=
  [(FieldName.traceId, event.traceId), (FieldName.name, event.name),
    (FieldName.spanId, event.spanId)] ++
  (if event.parentId.isTruthy then [(FieldName.parentId, event.parentId)] else []) ++
  [(FieldName.durationMs, event.durationMs)] ++
  timestampPairs event.timestamp

end SpanEvent

/-! ## Notes -/

structure NoteEvent where
  name : Value
  traceId : Value
  parentId : Value
  timestamp : Option Timestamp := none

namespace NoteEvent

/-- The parent of a note is the span it was made on. -/
def ofNote (span : Span) (note : Note) : Except FixedError NoteEvent := do
  let context ← span.knownContext
  let timestamp ← (Timestamp.ofNanoseconds note.time).mapError .timestamp
  return {
    name := .text note.name
    traceId := .text (Identifier.traceText context.traceId)
    parentId := .text (Identifier.spanText context.spanId)
    timestamp }

def toPairs (event : NoteEvent) : List (String × Value) :=
  [(FieldName.name, event.name), (FieldName.traceId, event.traceId),
    (FieldName.parentId, event.parentId)] ++
  timestampPairs event.timestamp ++
  [(FieldName.note, .bool true)]

end NoteEvent

end SpanExport
