import SpanExport.Delivery.Backend
import SpanExport.Tracing.Processor
import SpanExport.Tracing.Recording
import SpanExport.Tracing.Source

/-!
# Tracing sessions

A session has a current provider, which every setup replaces, and a global one, which only the
first setup sets. Spans are made by the current provider, or by the global one where there is
none. Shutting down ends the current provider alone.

What a provider does is what `opentelemetry-sdk` does. This is assumed of it: the global provider can
be set only once, and no other one is named in the environment; a provider shuts its processors down
in their order, up to the first that fails; and the name of the service is looked up in
`OTEL_SERVICE_NAME` alone. What else it reads from the environment is left to the `Sdk`.
-/

namespace SpanExport

structure Provider extends ProviderSettings where
  serviceName : Option Value
  processors : List Processor

/-- A span while the application holds it. One that is sampled out is not recorded. -/
structure LiveSpan where
  context : SpanContext
  isSampled : Bool
  /-- The provider that made the span, with what was recorded. -/
  recording : Option (Nat × Recording)

structure Session where
  providers : List Provider := []
  current : Option Nat := none
  global : Option Nat := none
  spans : List LiveSpan := []
  clients : Nat := 0
  clock : Source Int
  traceIds : Source Int
  spanIds : Source Int
  environment : Environment
  sdk : Sdk := .standard
  backend : Backend := {}

namespace SpanContext

def invalid : SpanContext := ⟨0, 0⟩

/-- Both identifiers are positive and fit their 128 and 64 bits. -/
def isValid (c : SpanContext) : Bool :=
  0 < c.traceId && c.traceId < Nat.pow 2 128 && 0 < c.spanId && c.spanId < Nat.pow 2 64

end SpanContext

namespace Session

/-! ## Parts of the session -/

def active (s : Session) : Option Nat := s.current <|> s.global

def provider? (s : Session) (number : Nat) : Option Provider := s.providers[number]?

def isConfigured (s : Session) : Bool := s.current.isSome

def received (s : Session) (number : Nat) : List Span :=
  (s.providers.flatMap Provider.processors).flatMap fun p =>
    match p.sink with
    | .memory n spans _ => if n = number then spans else []
    | .exporter _ => []

def readClock : Call Session Int := do
  let s ← Call.get
  .modify fun s => { s with clock := s.clock.tail }
  return s.clock.head

def drawTraceId : Call Session Int := do
  let s ← Call.get
  .modify fun s => { s with traceIds := s.traceIds.tail }
  return s.traceIds.head

def drawSpanId : Call Session Int := do
  let s ← Call.get
  .modify fun s => { s with spanIds := s.spanIds.tail }
  return s.spanIds.head

def onProcessors {α : Type} (number : Nat) (call : Call (List Processor) α) : Call Session α :=
  .within (fun s => ((s.provider? number).map Provider.processors).getD [])
    (fun processors s =>
      { s with providers := s.providers.modify number fun p => { p with processors } })
    call

/-! ## Providers -/

def connect (target : Target) (fields : Fields) (transmission : Transmission) :
    Call Session Client := do
  let s ← Call.get
  .modify fun s => { s with clients := s.clients + 1 }
  Backend.connect s.clients target fields transmission

/-- The name of the service, from the environment where none is given. -/
def resourceName (s : Session) (serviceName : Value) : Option Value :=
  if serviceName.isTruthy then some serviceName
  else ((s.environment "OTEL_SERVICE_NAME").filter (· ≠ "")).map .text

/-- Adds a provider. It becomes the current one, and the global one if it is the first. -/
def install (p : Provider) : Call Session Nat := do
  let number := (← Call.get).providers.length
  .modify fun s =>
    { s with
      providers := s.providers ++ [p]
      current := some number
      global := s.global <|> some number }
  return number

/-- The settings of a provider for a configuration, unless it or the environment is refused. -/
def settingsFor (s : Session) (c : Configuration) : Except Failure ProviderSettings := do
  let c ← c.check.mapError .configuration
  let sampler ← (Sampling.Sampler.ofValue c.sampleFraction).mapError .quantity
  s.sdk.settings s.environment sampler

/-- Configures tracing: a provider whose sampler agrees with the fraction that the exporter
reports, with a processor for the exporter and one for each of the additional ones. -/
def setup (c : Configuration) (kind : ProcessorKind) (client : Option Client)
    (memories : List Nat) : Call Session Nat := do
  let s ← Call.get
  let settings ← .ofExcept (s.settingsFor c)
  .modify fun s => { s with clients := s.clients + 1 }
  let exporter ← s.backend.createExporter s.clients c client
  let number ← install {
    toProviderSettings := settings
    serviceName := s.resourceName c.serviceName
    processors := { kind, sink := .exporter exporter } ::
      memories.map fun n => { kind, sink := .memory n [] false } }
  .log .info ("Tracing configured: dataset=" ++ c.dataset.shown ++ ", service=" ++
    Exporter.shownName c.serviceName ++ ", sample_fraction=" ++ c.sampleFraction.shown)
  return number

/-- Passes on what waits at the current provider; the answer is whether all of it could be. -/
def flush : Call Session (Option Bool) := do
  match (← Call.get).current with
  | none => return none
  | some number => return some (← onProcessors number Processor.flushAll)

/-- Shuts the current provider down. It stays configured if one of its processors fails. -/
def shutdown : Call Session Unit := do
  match (← Call.get).current with
  | none => return
  | some number =>
    .log .info "Shutting down tracing..."
    onProcessors number (.each Processor.shutdown)
    .modify fun s => { s with current := none }
    .log .info "Tracing shutdown complete"

/-! ## Spans -/

def addSpan (span : LiveSpan) : Call Session Nat := do
  let number := (← Call.get).spans.length
  .modify fun s => { s with spans := s.spans ++ [span] }
  return number

/-- The span with this number, if it can be a parent. -/
def parent? (s : Session) (number : Option Nat) : Option LiveSpan :=
  (number.bind fun n => s.spans[n]?).filter fun span => span.context.isValid

/-- The trace of a span, that of its parent or a new one, and whether it is sampled. -/
def trace (sampler : Sampling.Policy) (parent : Option LiveSpan) : Call Session (Int × Bool) := do
  match parent with
  | some p => return (p.context.traceId, sampler.keeps p.isSampled p.context.traceId)
  | none =>
    let traceId ← drawTraceId
    return (traceId, sampler.keeps none traceId)

/-- The provider that makes spans now, unless it is disabled. -/
def maker? (s : Session) : Option (Nat × Provider) := do
  let number ← s.active
  let provider ← s.provider? number
  if provider.isDisabled then none else some (number, provider)

def start (name : Value) (parent : Option Nat) (attributes : Fields) (time : Option Int) :
    Call Session Nat := do
  let s ← Call.get
  match s.maker? with
  | none => addSpan ⟨.invalid, false, none⟩
  | some (number, provider) =>
    let parent := s.parent? parent
    let (traceId, isSampled) ← trace provider.sampler parent
    let spanId ← drawSpanId
    let context : SpanContext := ⟨traceId, spanId⟩
    if !isSampled then
      addSpan ⟨context, false, none⟩
    else
      let attributes ← .ofExcept
        ((initialAttributes provider.limits.attributes attributes).mapError .text)
      let start ← match time with
        | some t => pure t
        | none => readClock
      addSpan ⟨context, true, some (number, {
        name, context, start, attributes
        limits := provider.limits
        parent := parent.map fun p => ⟨some p.context.spanId⟩ })⟩

def recording? (s : Session) (number : Nat) : Option (Nat × Recording) :=
  s.spans[number]?.bind LiveSpan.recording

def record (number : Nat) (change : Recording → Recording) : Call Session Unit :=
  .modify fun s =>
    { s with spans := s.spans.modify number fun span =>
        { span with recording := span.recording.map fun (p, r) =>
            (p, if r.isEnded then r else change r) } }

def setAttribute (number : Nat) (key : String) (value : Value) : Call Session Unit := do
  match (← Call.get).recording? number with
  | none => return
  | some (_, r) =>
    if r.isEnded then return
    let attributes ← .ofExcept
      ((SpanExport.setAttribute r.limits.attributes r.attributes key value).mapError .text)
    record number fun r => { r with attributes }

def setStatus (number : Nat) (code : StatusCode) (description : Option String) :
    Call Session Unit :=
  record number (·.setStatus code description)

def rename (number : Nat) (name : Value) : Call Session Unit := record number (·.rename name)

/-- Makes a note on a span. The clock is read for a recorded span even if it has ended. -/
def addNote (number : Nat) (name : String) (attributes : Fields) (time : Option Int) :
    Call Session Unit := do
  match (← Call.get).recording? number with
  | none => return
  | some (_, r) =>
    let attributes ← .ofExcept
      ((initialAttributes r.limits.noteAttributes attributes).mapError .text)
    let time ← match time with
      | some t => pure t
      | none => readClock
    record number (·.addNote ⟨name, some time, attributes⟩)

/-- Ends a span, once, and passes it on to the processors of its provider. -/
def finish (number : Nat) (time : Option Int) : Call Session Unit := do
  match (← Call.get).recording? number with
  | none => return
  | some (provider, r) =>
    if r.isEnded then return
    let time ← match time with
      | some t => pure t
      | none => readClock
    let ended := { r with finish := some time }
    record number fun _ => ended
    onProcessors provider (.each (Processor.onEnd ended.span))

end Session

end SpanExport
