import SpanExport.Delivery.Exporter

/-!
# Span processors

A simple processor passes a span on when it ends, a batch processor when it is flushed or shut
down. After that it takes no more spans.

Processors are those of `opentelemetry-sdk`. It is assumed that the `OTEL_BSP_*` variables are in
order and that the queue of a batch processor neither overflows nor is emptied by its timer.
-/

namespace SpanExport

/-- Where the spans of a processor go: to an exporter, or into memory under a number. -/
inductive Sink where
  | exporter (exporter : Exporter)
  | memory (number : Nat) (received : List Span) (isStopped : Bool)

namespace Sink

def accept (spans : List Span) : Call Sink Unit := fun sink =>
  match sink with
  | .exporter e =>
    let outcome := Exporter.exportSpans spans e
    ⟨.exporter outcome.state, outcome.journal, .ok ()⟩
  | .memory number received isStopped =>
    ⟨.memory number (if isStopped then received else received ++ spans) isStopped, [], .ok ()⟩

def shutdown : Call Sink Unit := fun sink =>
  match sink with
  | .exporter e =>
    let outcome := Exporter.shutdown e
    ⟨.exporter outcome.state, outcome.journal, outcome.result⟩
  | .memory number received _ => ⟨.memory number received true, [], .ok ()⟩

end Sink

inductive ProcessorKind where
  | simple
  | batch
deriving DecidableEq

def ProcessorKind.name : ProcessorKind → String
  | .simple => "SimpleSpanProcessor"
  | .batch => "BatchSpanProcessor"

structure Processor where
  kind : ProcessorKind
  sink : Sink
  /-- The spans that wait for the next flush, oldest first. -/
  queue : List Span := []
  isStopped : Bool := false

namespace Processor

def onSink (call : Call Sink Unit) : Call Processor Unit :=
  .within Processor.sink (fun sink p => { p with sink }) call

def onEnd (span : Span) : Call Processor Unit := do
  let p ← Call.get
  if p.isStopped then return
  match p.kind with
  | .simple => onSink (Sink.accept [span])
  | .batch => .modify fun p => { p with queue := p.queue ++ [span] }

def drain : Call Processor Unit := do
  let waiting := (← Call.get).queue
  .modify fun p => { p with queue := [] }
  if waiting ≠ [] then onSink (Sink.accept waiting)

/-- A batch processor that was shut down cannot be flushed. -/
def flush : Call Processor Bool := do
  let p ← Call.get
  match p.kind with
  | .simple => return true
  | .batch =>
    if p.isStopped then return false
    drain
    return true

def shutdown : Call Processor Unit := do
  let p ← Call.get
  match p.kind with
  | .simple =>
    .modify fun p => { p with isStopped := true }
    onSink Sink.shutdown
  | .batch =>
    if p.isStopped then return
    .modify fun p => { p with isStopped := true }
    drain
    onSink Sink.shutdown

/-- Flushes one after the other; the answer is whether each of them could be flushed. -/
def flushAll : Call (List Processor) Bool
  | [] => ⟨[], [], .ok true⟩
  | p :: ps =>
    let first := flush p
    match first.result with
    | .error e => ⟨first.state :: ps, first.journal, .error e⟩
    | .ok done =>
      let rest := flushAll ps
      ⟨first.state :: rest.state, first.journal ++ rest.journal, rest.result.map (done && ·)⟩

theorem flushAll_cons_of_error {p : Processor} {e : Failure} (h : (flush p).result = .error e)
    (ps : List Processor) :
    flushAll (p :: ps) = ⟨(flush p).state :: ps, (flush p).journal, .error e⟩ := by
  rw [flushAll]
  simp only [h]

theorem flushAll_cons_of_ok {p : Processor} {done : Bool} (h : (flush p).result = .ok done)
    (ps : List Processor) :
    flushAll (p :: ps) = ⟨(flush p).state :: (flushAll ps).state,
      (flush p).journal ++ (flushAll ps).journal, (flushAll ps).result.map (done && ·)⟩ := by
  rw [flushAll]
  simp only [h]

end Processor

end SpanExport
