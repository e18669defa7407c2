import SpanExport.Proofs.History
import SpanExport.Tracing.Session

/-!
# Requests for clients

Only a setup asks for a client. Exporting, ending a span and shutting down use the client that
is there.
-/

namespace SpanExport

def Entry.IsRequest : Entry → Prop
  | .requested _ => True
  | _ => False

theorem Journal.requests_eq_nil {journal : Journal} (h : ∀ entry ∈ journal, ¬ entry.IsRequest) :
    journal.requests = [] := by
  apply List.filterMap_eq_nil_iff.2
  intro entry hentry
  cases entry with
  | requested request => exact absurd trivial (h _ hentry)
  | _ => rfl

/-- Whatever else the call does, it asks for no client. -/
abbrev Call.AsksForNone {σ α : Type} (x : Call σ α) : Prop :=
  Call.Emits (fun entry => ¬ entry.IsRequest) x

section

variable {σ α : Type}

theorem pure_asksForNone (a : α) : (pure a : Call σ α).AsksForNone :=
  Call.emits_nothing fun _ => rfl

theorem get_asksForNone : (Call.get : Call σ σ).AsksForNone := Call.emits_nothing fun _ => rfl

theorem modify_asksForNone (f : σ → σ) : (Call.modify f).AsksForNone :=
  Call.emits_nothing fun _ => rfl

theorem ofExcept_asksForNone (result : Except Failure α) :
    (Call.ofExcept result : Call σ α).AsksForNone :=
  Call.emits_nothing fun _ => rfl

theorem log_asksForNone (level : LogLevel) (message : String) :
    (Call.log level message : Call σ Unit).AsksForNone :=
  Call.emits_record fun _ h => by simp [List.mem_singleton.1 h, Entry.IsRequest]

end

/-! ## Exporters -/

namespace Client

theorem send_asksForNone (event : Event) : (send event).AsksForNone := by
  intro client
  unfold send
  split
  · cases client.transmission.refusal client.handed event with
    | some message => simp
    | none => simp [Entry.IsRequest]
  · simp

theorem close_asksForNone : close.AsksForNone := by
  intro client
  unfold close
  split
  · cases client.transmission.closeError <;> simp [Entry.IsRequest]
  · simp [Entry.IsRequest]

end Client

namespace Exporter

theorem exportNote_asksForNone (span : Span) (note : Note) :
    (exportNote span note).AsksForNone := by
  unfold exportNote
  refine (ofExcept_asksForNone _).bind fun fixed => get_asksForNone.bind fun e => ?_
  refine (ofExcept_asksForNone _).bind fun event => ?_
  exact ((Client.send_asksForNone event).within _ _).bind fun _ => log_asksForNone _ _

theorem exportSpan_asksForNone (span : Span) : (exportSpan span).AsksForNone := by
  unfold exportSpan
  refine (ofExcept_asksForNone _).bind fun fixed => get_asksForNone.bind fun e => ?_
  refine (ofExcept_asksForNone _).bind fun event => ?_
  refine ((Client.send_asksForNone event).within _ _).bind fun _ => ?_
  exact (log_asksForNone _ _).bind fun _ => Call.Emits.forM (exportNote_asksForNone span)

theorem tryExportSpan_asksForNone (span : Span) : (tryExportSpan span).AsksForNone := by
  unfold tryExportSpan
  refine (exportSpan_asksForNone span).attempt.bind fun result => ?_
  cases result with
  | ok u => exact pure_asksForNone ()
  | error failure => exact log_asksForNone _ _

theorem exportSpans_asksForNone (spans : List Span) : (exportSpans spans).AsksForNone := by
  unfold exportSpans
  refine get_asksForNone.bind fun e => ?_
  split
  · exact (log_asksForNone _ _).bind fun _ => pure_asksForNone _
  · exact (Call.Emits.forM tryExportSpan_asksForNone).bind fun _ => pure_asksForNone _

theorem close_asksForNone : close.AsksForNone := by
  unfold close
  refine get_asksForNone.bind fun e => ?_
  split
  · exact pure_asksForNone ()
  · refine (log_asksForNone _ _).bind fun _ => (modify_asksForNone _).bind fun _ => ?_
    exact (Client.close_asksForNone.within _ _).bind fun _ => log_asksForNone _ _

end Exporter

/-! ## Processors -/

theorem Sink.accept_asksForNone (spans : List Span) : (accept spans).AsksForNone := by
  intro sink
  cases sink with
  | exporter e => exact Exporter.exportSpans_asksForNone spans e
  | memory number received isStopped => simp [accept]

theorem Sink.shutdown_asksForNone : shutdown.AsksForNone := by
  intro sink
  cases sink with
  | exporter e => exact Exporter.close_asksForNone e
  | memory number received isStopped => simp [shutdown]

namespace Processor

theorem onEnd_asksForNone (span : Span) : (onEnd span).AsksForNone := by
  unfold onEnd
  refine get_asksForNone.bind fun p => ?_
  split
  · exact pure_asksForNone ()
  · cases p.kind with
    | simple => exact (Sink.accept_asksForNone [span]).within _ _
    | batch => exact modify_asksForNone _

theorem drain_asksForNone : drain.AsksForNone := by
  unfold drain
  refine get_asksForNone.bind fun p => (modify_asksForNone _).bind fun _ => ?_
  split
  · exact (Sink.accept_asksForNone p.queue).within _ _
  · exact pure_asksForNone ()

theorem shutdown_asksForNone : shutdown.AsksForNone := by
  have hsink : (onSink Sink.shutdown).AsksForNone := Sink.shutdown_asksForNone.within _ _
  unfold shutdown
  refine get_asksForNone.bind fun p => ?_
  cases p.kind with
  | simple => exact (modify_asksForNone _).bind fun _ => hsink
  | batch =>
    simp only
    split
    · exact pure_asksForNone ()
    · exact (modify_asksForNone _).bind fun _ => drain_asksForNone.bind fun _ => hsink

end Processor

/-! ## Sessions -/

namespace Session

theorem onEnd_asksForNone (number : Nat) (span : Span) :
    (onProcessors number (.each (Processor.onEnd span))).AsksForNone :=
  (Processor.onEnd_asksForNone span).each.within _ _

theorem shutdown_asksForNone : shutdown.AsksForNone := by
  unfold shutdown
  refine get_asksForNone.bind fun s => ?_
  cases s.current with
  | none => exact pure_asksForNone ()
  | some number =>
    refine (log_asksForNone _ _).bind fun _ => ?_
    refine (Processor.shutdown_asksForNone.each.within _ _).bind fun _ => ?_
    exact (modify_asksForNone _).bind fun _ => log_asksForNone _ _

end Session

end SpanExport
