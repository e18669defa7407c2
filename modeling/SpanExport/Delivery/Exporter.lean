import SpanExport.Delivery.Client
import SpanExport.Sampling
import SpanExport.Value.Field

/-!
# The exporter

Every span becomes an event, followed by one for each of its notes. A span that cannot be
exported is logged and does not keep the others back; a closed exporter drops all of them.
-/

namespace SpanExport

structure Exporter where
  client : Client
  builder : Builder
  sampleFraction : Value
  serviceName : Value
  isClosed : Bool := false

inductive ExportResult where
  | success
  | failure
deriving DecidableEq

namespace Exporter

def shownName (serviceName : Value) : String :=
  if serviceName.isTruthy then serviceName.shown else "<unset>"

def make (client : Client) (sampleFraction serviceName : Value) : Exporter where
  client
  builder := Builder.ofClient client
  sampleFraction
  serviceName

def announcement (exporter : Exporter) : Entry :=
  .logged .info
    ("HoneycombExporter initialized: dataset=" ++ exporter.client.target.dataset.shown ++
      ", sample_fraction=" ++ exporter.sampleFraction.shown ++
      ", service_name=" ++ shownName exporter.serviceName)

/-! ## Events -/

def attributePairs (attributes : Fields) : Except Failure (List (String × Value)) :=
  attributes.entries.mapM fun (name, value) =>
    match value.toField with
    | .ok v => .ok (name, v)
    | .error e => .error (.text e)

/-- The code if it is not zero and the description if there is one. -/
def statusPairs (status : Option Status) : Except Failure (List (String × Value)) :=
  match status with
  | none => .ok []
  | some status =>
    match status.code.statusInteger with
    | .error e => .error (.status e)
    | .ok code =>
      .ok ((if code = 0 then [] else [(FieldName.statusCode, .int code)]) ++
        match status.description with
        | none | some "" => []
        | some text => [(FieldName.statusDescription, .text text)])

def servicePairs (exporter : Exporter) : List (String × Value) :=
  if exporter.serviceName.isTruthy then [(FieldName.serviceName, exporter.serviceName)] else []

/-- The builder's target with the rate that the fraction gives, if it gives one. -/
def target (exporter : Exporter) : Except Failure Target :=
  match Sampling.rate exporter.sampleFraction with
  | .error e => .error (.quantity e)
  | .ok none => .ok exporter.builder.target
  | .ok (some rate) => .ok (exporter.builder.target.set (.sampleRate (.int rate)))

/-- An event to which the pairs are written in order, after the name of the service. -/
def event (exporter : Exporter) (target : Target) (time : Option Timestamp)
    (pairs : List (String × Value)) : Event where
  fields := (exporter.builder.baseFields exporter.client).putAll (exporter.servicePairs ++ pairs)
  target := target
  createdAt := time

def spanEvent (exporter : Exporter) (fixed : SpanEvent) (span : Span) : Except Failure Event := do
  let target ← exporter.target
  let attributes ← attributePairs span.attributes
  let status ← statusPairs span.status
  return exporter.event target fixed.timestamp (fixed.toPairs ++ attributes ++ status)

def noteEvent (exporter : Exporter) (fixed : NoteEvent) (note : Note) :
    Except Failure Event := do
  let target ← exporter.target
  let attributes ← attributePairs note.attributes
  return exporter.event target fixed.timestamp (fixed.toPairs ++ attributes)

/-! ## Exporting -/

def onClient {α : Type} (call : Call Client α) : Call Exporter α :=
  .within Exporter.client (fun client exporter => { exporter with client }) call

def exportNote (span : Span) (note : Note) : Call Exporter Unit := do
  let fixed ← .ofExcept ((NoteEvent.ofNote span note).mapError .fixed)
  let event ← .ofExcept ((← .get).noteEvent fixed note)
  onClient (Client.send event)
  .log .debug ("Sent annotation '" ++ fixed.name.shown ++ "' for span " ++ fixed.parentId.shown)

def exportSpan (span : Span) : Call Exporter Unit := do
  let fixed ← .ofExcept ((SpanEvent.ofSpan span).mapError .fixed)
  let event ← .ofExcept ((← .get).spanEvent fixed span)
  onClient (Client.send event)
  .log .debug ("Sent span '" ++ fixed.name.shown ++ "' (trace " ++
    String.ofList (fixed.traceId.shown.toList.take 8) ++ ", span " ++ fixed.spanId.shown ++ ")")
  span.notes.forM (exportNote span)

/-- Exports a span and logs a failure instead of passing it on. -/
def tryExportSpan (span : Span) : Call Exporter Unit := do
  match ← Call.attempt (exportSpan span) with
  | .ok _ => return
  | .error e =>
    .log .error ("Failed to export span '" ++ span.name.shown ++ "' to Honeycomb: " ++ e.message)

/-- Exports a batch. Losing spans is no failure. -/
def exportSpans (spans : List Span) : Call Exporter ExportResult := do
  if (← .get).isClosed then
    .log .warning ("HoneycombExporter is closed, dropping " ++ toString spans.length ++ " spans")
  else
    spans.forM tryExportSpan
  return .success

/-! ## The end -/

def forceFlush : Call Exporter Bool := do
  if !(← .get).isClosed then onClient Client.flush
  return true

/-- Closes the client, once. The exporter is closed even if the client refuses. -/
def close : Call Exporter Unit := do
  if (← .get).isClosed then return
  .log .info "HoneycombExporter closing, waiting for in-flight events..."
  .modify fun exporter => { exporter with isClosed := true }
  onClient Client.close
  .log .info "HoneycombExporter closed"

def shutdown : Call Exporter Unit := close

end Exporter

end SpanExport
