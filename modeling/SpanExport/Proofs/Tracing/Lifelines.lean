import SpanExport.Proofs.Delivery.Lifecycle
import SpanExport.Tracing.Processor

/-!
# Lifelines

What matters of a processor for when clients are closed: the client of its exporter, and whether
that exporter was closed. A span that ends or a flush changes none of it, and shutting down
closes the exporter if it was open.
-/

namespace SpanExport

/-- The clients that were asked to close. -/
def Journal.closings (journal : Journal) : List Nat :=
  journal.clientCalls.filterMap fun | (client, .closed) => some client | _ => none

theorem Journal.closings_append (xs ys : Journal) :
    closings (xs ++ ys) = closings xs ++ closings ys := by
  rw [closings, clientCalls_append, List.filterMap_append]
  rfl

theorem Journal.closings_eq_nil {journal : Journal} (h : journal.clientCalls = []) :
    journal.closings = [] := by
  rw [closings, h, List.filterMap_nil]

/-! ## Exporters -/

structure Lifeline where
  client : Nat
  closeError : Option String
  isClosed : Bool

def Lifeline.closed (l : Lifeline) : Lifeline := { l with isClosed := true }

theorem Lifeline.closed_eq_self {l : Lifeline} (h : l.isClosed = true) : l.closed = l := by
  cases l
  cases h
  rfl

namespace Exporter

def lifeline (e : Exporter) : Lifeline where
  client := e.client.number
  closeError := e.client.transmission.closeError
  isClosed := e.isClosed

theorem exportSpans_lifeline (e : Exporter) (spans : List Span) :
    (exportSpans spans e).state.lifeline = e.lifeline ∧
      (exportSpans spans e).journal.clientCalls = [] ∧
      (e.isClosed = true → (exportSpans spans e).journal.sent = []) := by
  cases h : e.isClosed with
  | false =>
    have hx := exportSpans_exported h spans
    exact ⟨by rw [hx.state]; rfl, hx.clientCalls, fun hc => by cases hc⟩
  | true =>
    rw [exportSpans_closed h]
    exact ⟨rfl, rfl, fun _ => rfl⟩

theorem shutdown_lifeline {e : Exporter} (h : e.client.transmission.closeError = none) :
    (shutdown e).state.lifeline = e.lifeline.closed ∧
      (shutdown e).journal.closings = (if e.isClosed then [] else [e.client.number]) ∧
      (shutdown e).result = .ok () := by
  unfold shutdown
  cases hc : e.isClosed with
  | false =>
    obtain ⟨hstate, hcalls, -, hresult⟩ := close_open hc
    refine ⟨?_, ?_, ?_⟩
    · rw [hstate, Client.close_state]
      rfl
    · rw [Journal.closings, hcalls]
      rfl
    · rw [hresult, Client.close, h]
      split <;> rfl
  | true =>
    rw [close_closed hc]
    exact ⟨by simp [lifeline, Lifeline.closed, hc], rfl, rfl⟩

end Exporter

/-! ## Processors -/

def Sink.lifeline? : Sink → Option Lifeline
  | .exporter e => some e.lifeline
  | .memory .. => none

namespace Processor

def lifeline? (p : Processor) : Option Lifeline := p.sink.lifeline?

/-- A processor and its exporter end together, and nothing keeps the exporter from it. -/
def IsSteady (p : Processor) : Prop :=
  ∀ l ∈ p.lifeline?, l.isClosed = p.isStopped ∧ l.closeError = none

/-- What a call leaves that ends nothing. -/
structure Kept {α : Type} (p : Processor) (o : Outcome Processor α) : Prop where
  isStopped : o.state.isStopped = p.isStopped
  lifeline : o.state.lifeline? = p.lifeline?
  clientCalls : o.journal.clientCalls = []
  sent : (∀ l ∈ p.lifeline?, l.isClosed = true) → o.journal.sent = []

theorem Kept.steady {α : Type} {p : Processor} {o : Outcome Processor α} (h : Kept p o)
    (hp : p.IsSteady) : o.state.IsSteady := by
  unfold IsSteady
  rw [h.lifeline, h.isStopped]
  exact hp

theorem Kept.same {α : Type} (p : Processor) (result : Except Failure α) :
    Kept p ⟨p, [], result⟩ :=
  ⟨rfl, rfl, rfl, fun _ => rfl⟩

theorem onSink_accept_kept (p : Processor) (spans : List Span) :
    Kept p (onSink (Sink.accept spans) p) ∧ (onSink (Sink.accept spans) p).result = .ok () := by
  rw [onSink, Call.within_apply]
  cases hs : p.sink with
  | memory number received isStopped =>
    refine ⟨⟨rfl, ?_, rfl, fun _ => rfl⟩, rfl⟩
    rw [lifeline?, lifeline?, hs]
    rfl
  | exporter e =>
    obtain ⟨hlife, hcalls, hsent⟩ := Exporter.exportSpans_lifeline e spans
    refine ⟨⟨rfl, ?_, hcalls, fun hc => ?_⟩, rfl⟩
    · rw [lifeline?, lifeline?, hs]
      exact congrArg some hlife
    · rw [lifeline?, hs] at hc
      exact hsent (hc e.lifeline rfl)

theorem drain_kept (p : Processor) : Kept p (drain p) ∧ (drain p).result = .ok () := by
  unfold drain
  rw [Call.get_bind_apply, Call.modify_bind_apply]
  split
  · obtain ⟨hk, hr⟩ := onSink_accept_kept { p with queue := [] } p.queue
    exact ⟨⟨hk.isStopped, hk.lifeline, hk.clientCalls, hk.sent⟩, hr⟩
  · exact ⟨⟨rfl, rfl, rfl, fun _ => rfl⟩, rfl⟩

theorem onEnd_kept (p : Processor) (span : Span) : Kept p (onEnd span p) := by
  unfold onEnd
  rw [Call.get_bind_apply]
  cases p.isStopped with
  | true => exact Kept.same p _
  | false =>
    cases p.kind with
    | simple => exact (onSink_accept_kept p [span]).1
    | batch => exact ⟨rfl, rfl, rfl, fun _ => rfl⟩

theorem flush_kept (p : Processor) : Kept p (flush p) := by
  unfold flush
  rw [Call.get_bind_apply]
  cases p.kind with
  | simple => exact Kept.same p _
  | batch =>
    simp only
    split
    · exact Kept.same p _
    · obtain ⟨hk, hr⟩ := drain_kept p
      cases hd : drain p with
      | mk state journal result =>
        rw [hd] at hk hr
        subst hr
        rw [Call.bind_of_ok _ hd]
        refine ⟨hk.isStopped, hk.lifeline, ?_, fun hc => ?_⟩
        · simpa [Call.pure_apply] using hk.clientCalls
        · simpa [Call.pure_apply] using hk.sent hc

/-! ## Shutting down -/

structure Ended (p : Processor) (o : Outcome Processor Unit) : Prop where
  isStopped : o.state.isStopped = true
  lifeline : o.state.lifeline? = p.lifeline?.map Lifeline.closed
  closings : o.journal.closings = (p.lifeline?.toList.filter (!·.isClosed)).map (·.client)
  result : o.result = .ok ()

theorem Ended.steady {p : Processor} {o : Outcome Processor Unit} (h : Ended p o)
    (hp : p.IsSteady) : o.state.IsSteady := by
  intro l hl
  rw [h.lifeline] at hl
  obtain ⟨m, hm, rfl⟩ := Option.map_eq_some_iff.1 hl
  exact ⟨h.isStopped.symm, (hp m hm).2⟩

theorem onSink_shutdown_ended {p : Processor} (hs : p.isStopped = true)
    (hp : ∀ l ∈ p.lifeline?, l.closeError = none) : Ended p (onSink Sink.shutdown p) := by
  rw [onSink, Call.within_apply]
  cases hk : p.sink with
  | memory number received isStopped =>
    refine ⟨hs, ?_, ?_, rfl⟩
    · rw [lifeline?, lifeline?, hk]
      rfl
    · rw [lifeline?, hk]
      rfl
  | exporter e =>
    rw [lifeline?, hk] at hp
    obtain ⟨hlife, hclosings, hresult⟩ := Exporter.shutdown_lifeline (hp e.lifeline rfl)
    refine ⟨hs, ?_, ?_, hresult⟩
    · rw [lifeline?, lifeline?, hk]
      exact congrArg some hlife
    · rw [lifeline?, hk]
      refine hclosings.trans ?_
      cases hc : e.isClosed <;> simp [Sink.lifeline?, Exporter.lifeline, hc]

theorem shutdown_ended {p : Processor} (hp : p.IsSteady) : Ended p (shutdown p) := by
  unfold shutdown
  rw [Call.get_bind_apply]
  have hopen : ∀ l ∈ p.lifeline?, l.closeError = none := fun l hl => (hp l hl).2
  cases p.kind with
  | simple =>
    simp only
    rw [Call.modify_bind_apply]
    have he := onSink_shutdown_ended (p := { p with isStopped := true }) rfl hopen
    exact ⟨he.isStopped, he.lifeline, he.closings, he.result⟩
  | batch =>
    simp only
    split
    · rename_i hs
      have hc : ∀ l ∈ p.lifeline?, l.isClosed = true := fun l hl => (hp l hl).1.trans hs
      refine ⟨hs, ?_, ?_, rfl⟩
      · cases hl : p.lifeline? with
        | none => rw [Call.pure_apply, hl]; rfl
        | some l => rw [Call.pure_apply, hl, Option.map_some, Lifeline.closed_eq_self (hc l hl)]
      · cases hl : p.lifeline? with
        | none => rfl
        | some l => simp [Call.pure_apply, Journal.closings, hc l hl]
    · -- The spans that wait are handed over first, and that closes nothing.
      rw [Call.modify_bind_apply]
      obtain ⟨hk, hr⟩ := drain_kept { p with isStopped := true }
      cases hd : drain { p with isStopped := true } with
      | mk state journal result =>
        rw [hd] at hk hr
        subst hr
        rw [Call.bind_of_ok _ hd]
        have he := onSink_shutdown_ended hk.isStopped fun l hl => hopen l (hk.lifeline ▸ hl)
        refine ⟨he.isStopped, ?_, ?_, he.result⟩
        · exact he.lifeline.trans (congrArg _ hk.lifeline)
        · have hnil := Journal.closings_eq_nil hk.clientCalls
          rw [Outcome.after_journal, Journal.closings_append, hnil, List.nil_append, he.closings,
            hk.lifeline]
          rfl

/-! ## Several processors -/

def lifelines (ps : List Processor) : List Lifeline := ps.filterMap lifeline?

theorem lifelines_cons (p : Processor) (ps : List Processor) :
    lifelines (p :: ps) = p.lifeline?.toList ++ lifelines ps := by
  unfold lifelines
  cases h : p.lifeline? with
  | none => rw [List.filterMap_cons_none h]; rfl
  | some l => rw [List.filterMap_cons_some h]; rfl

theorem lifelines_memories (kind : ProcessorKind) (memories : List Nat) :
    lifelines (memories.map fun n => { kind, sink := .memory n [] false }) = [] := by
  unfold lifelines
  rw [List.filterMap_map, List.filterMap_eq_nil_iff]
  exact fun _ _ => rfl

structure AllKept {α : Type} (ps : List Processor) (o : Outcome (List Processor) α) : Prop where
  steady : (∀ p ∈ ps, p.IsSteady) → ∀ p ∈ o.state, p.IsSteady
  lifelines : lifelines o.state = lifelines ps
  clientCalls : o.journal.clientCalls = []
  sent : (∀ l ∈ Processor.lifelines ps, l.isClosed = true) → o.journal.sent = []

namespace AllKept

variable {α β γ : Type} {p : Processor} {ps : List Processor}

theorem same (ps : List Processor) (result : Except Failure α) : AllKept ps ⟨ps, [], result⟩ :=
  ⟨id, rfl, rfl, fun _ => rfl⟩

theorem cons {first : Outcome Processor α} {rest : Outcome (List Processor) β}
    (hp : Kept p first) (hps : AllKept ps rest) (result : Except Failure γ) :
    AllKept (p :: ps) ⟨first.state :: rest.state, first.journal ++ rest.journal, result⟩ := by
  refine ⟨fun h => ?_, ?_, ?_, fun h => ?_⟩
  · rw [List.forall_mem_cons] at h ⊢
    exact ⟨hp.steady h.1, hps.steady h.2⟩
  · rw [lifelines_cons, lifelines_cons, hp.lifeline, hps.lifelines]
  · rw [Journal.clientCalls_append, hp.clientCalls, hps.clientCalls]
    rfl
  · rw [lifelines_cons] at h
    rw [Journal.sent_append, hps.sent fun l hl => h l (List.mem_append_right _ hl),
      hp.sent fun l hl => h l (List.mem_append_left _ (Option.mem_toList.2 hl))]
    rfl

theorem head {first : Outcome Processor α} (hp : Kept p first) (result : Except Failure γ) :
    AllKept (p :: ps) ⟨first.state :: ps, first.journal, result⟩ := by
  have h := cons hp (same ps (.ok ())) result
  rwa [List.append_nil] at h

end AllKept

theorem each_kept {x : Call Processor Unit} (hx : ∀ p, Kept p (x p)) (ps : List Processor) :
    AllKept ps (Call.each x ps) := by
  induction ps with
  | nil => exact AllKept.same [] _
  | cons p rest ih =>
    cases h : (x p).result with
    | error failure =>
      rw [Call.each_cons_of_error h]
      exact AllKept.head (hx p) _
    | ok u =>
      rw [Call.each_cons_of_ok h]
      exact AllKept.cons (hx p) ih _

theorem flushAll_kept (ps : List Processor) : AllKept ps (flushAll ps) := by
  induction ps with
  | nil => exact AllKept.same [] _
  | cons p rest ih =>
    cases h : (flush p).result with
    | error failure =>
      rw [flushAll_cons_of_error h]
      exact AllKept.head (flush_kept p) _
    | ok done =>
      rw [flushAll_cons_of_ok h]
      exact AllKept.cons (flush_kept p) ih _

structure AllEnded (ps : List Processor) (o : Outcome (List Processor) Unit) : Prop where
  steady : ∀ p ∈ o.state, p.IsSteady
  lifelines : lifelines o.state = (lifelines ps).map Lifeline.closed
  closings : o.journal.closings =
    ((Processor.lifelines ps).filter (!·.isClosed)).map (·.client)
  result : o.result = .ok ()

theorem each_shutdown_ended {ps : List Processor} (h : ∀ p ∈ ps, p.IsSteady) :
    AllEnded ps (Call.each shutdown ps) := by
  induction ps with
  | nil => exact ⟨h, rfl, rfl, rfl⟩
  | cons p rest ih =>
    rw [List.forall_mem_cons] at h
    have hp := shutdown_ended h.1
    have hps := ih h.2
    rw [Call.each_cons_of_ok hp.result]
    refine ⟨List.forall_mem_cons.2 ⟨hp.steady h.1, hps.steady⟩, ?_, ?_, hps.result⟩
    · rw [lifelines_cons, lifelines_cons, hp.lifeline, hps.lifelines, List.map_append,
        Option.toList_map]
    · rw [lifelines_cons, Journal.closings_append, hp.closings, hps.closings, List.filter_append,
        List.map_append]

end Processor

end SpanExport
