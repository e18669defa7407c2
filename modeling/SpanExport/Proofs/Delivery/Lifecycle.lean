import SpanExport.Proofs.Delivery.Batch
import SpanExport.Proofs.History

/-!
# The life of an exporter

An exporter asks its client to close once, whatever calls are made on it and in which order, and
asks it to flush only before that. Once it was closed it exports nothing more.
-/

namespace SpanExport

/-! ## Calls on an exporter -/

inductive ExporterCall where
  | exportSpans (spans : List Span)
  | exportSpan (span : Span)
  | forceFlush
  | close
  | shutdown

inductive ExporterAnswer where
  | exported (result : ExportResult)
  | flushed (done : Bool)
  | done

namespace ExporterCall

def make : ExporterCall → Call Exporter ExporterAnswer
  | .exportSpans spans => .exported <$> Exporter.exportSpans spans
  | .exportSpan span => (fun _ => .done) <$> Exporter.exportSpan span
  | .forceFlush => .flushed <$> Exporter.forceFlush
  | .close => (fun _ => .done) <$> Exporter.close
  | .shutdown => (fun _ => .done) <$> Exporter.shutdown

def closes : ExporterCall → Bool
  | .close | .shutdown => true
  | _ => false

def flushes : ExporterCall → Bool
  | .forceFlush => true
  | _ => false

end ExporterCall

/-! ## The client -/

theorem Client.close_state (c : Client) :
    (Client.close c).state =
      { c with isOpen := c.isOpen && c.transmission.closeError.isSome } := by
  obtain ⟨number, target, fields, transmission, isOpen, handed⟩ := c
  unfold Client.close
  cases isOpen <;> cases hc : transmission.closeError <;> simp

theorem Client.isOpen_close {c : Client} {u : Unit} (h : (Client.close c).result = .ok u) :
    (Client.close c).state.isOpen = false := by
  rw [Client.close_state]
  unfold Client.close at h
  cases ho : c.isOpen with
  | false => rfl
  | true =>
    rw [if_pos ho] at h
    cases hc : c.transmission.closeError with
    | none => rfl
    | some message => simp [hc] at h

theorem Client.close_journal (c : Client) :
    (Client.close c).journal.clientCalls = [(c.number, .closed)] ∧
      (Client.close c).journal.sent = [] := by
  unfold Client.close
  cases c.isOpen <;> cases c.transmission.closeError <;> simp

theorem Client.result_close {c : Client} (h : c.isOpen = true) :
    (Client.close c).result =
      match c.transmission.closeError with
      | none => .ok ()
      | some message => .error (.client message) := by
  unfold Client.close
  cases c.transmission.closeError <;> simp [h]

theorem Client.flush_state (c : Client) : (Client.flush c).state = c := by
  unfold Client.flush
  cases c.isOpen <;> cases c.transmission.closeError <;> rfl

theorem Client.flush_journal (c : Client) :
    (Client.flush c).journal.clientCalls = [(c.number, .flushed)] ∧
      (Client.flush c).journal.sent = [] := by
  unfold Client.flush
  cases c.isOpen <;> cases c.transmission.closeError <;> simp

namespace Exporter

/-! ## Single calls -/

theorem close_open {e : Exporter} (h : e.isClosed = false) :
    (close e).state = { e with isClosed := true, client := (Client.close e.client).state } ∧
    (close e).journal.clientCalls = [(e.client.number, .closed)] ∧
    (close e).journal.sent = [] ∧ (close e).result = (Client.close e.client).result := by
  obtain ⟨hcalls, hsent⟩ := Client.close_journal e.client
  unfold close
  rw [Call.get_bind_apply, if_neg (by simp [h])]
  rw [Call.log_bind_apply, Call.modify_bind_apply]
  cases hc : Client.close e.client with
  | mk state journal result =>
    simp only [hc] at hcalls hsent
    have hin : onClient Client.close { e with isClosed := true } =
        ⟨{ e with isClosed := true, client := state }, journal, result⟩ := by
      rw [onClient, Call.within_apply]
      simp only [hc]
    cases result with
    | error failure =>
      rw [Call.bind_of_error _ hin]
      refine ⟨rfl, ?_, ?_, rfl⟩
      · simp [hcalls]
      · simp [hsent]
    | ok u =>
      rw [Call.bind_of_ok _ hin]
      refine ⟨rfl, ?_, ?_, rfl⟩
      · simp [hcalls, Call.log, Call.record]
      · simp [hsent, Call.log, Call.record]

theorem close_closed {e : Exporter} (h : e.isClosed = true) : close e = ⟨e, [], .ok ()⟩ := by
  unfold close
  rw [Call.get_bind_apply, if_pos h, Call.pure_apply]

theorem forceFlush_open {e : Exporter} (h : e.isClosed = false) :
    (forceFlush e).state = e ∧
    (forceFlush e).journal.clientCalls = [(e.client.number, .flushed)] ∧
    (forceFlush e).journal.sent = [] := by
  obtain ⟨hcalls, hsent⟩ := Client.flush_journal e.client
  have hstate := Client.flush_state e.client
  unfold forceFlush
  rw [Call.get_bind_apply, if_pos (by simp [h])]
  cases hf : Client.flush e.client with
  | mk state journal result =>
    simp only [hf] at hcalls hsent hstate
    subst hstate
    have hin : onClient Client.flush e = ⟨e, journal, result⟩ := by
      rw [onClient, Call.within_apply]
      simp only [hf]
    cases result with
    | error failure =>
      rw [Call.bind_of_error _ hin]
      exact ⟨rfl, hcalls, hsent⟩
    | ok u =>
      rw [Call.bind_of_ok _ hin]
      refine ⟨rfl, ?_, ?_⟩
      · simp [hcalls, Call.pure_apply]
      · simp [hsent, Call.pure_apply]

theorem forceFlush_closed {e : Exporter} (h : e.isClosed = true) :
    forceFlush e = ⟨e, [], .ok true⟩ := by
  unfold forceFlush
  rw [Call.get_bind_apply, if_neg (by simp [h])]
  rfl

end Exporter

/-! ## One call -/

/-- How a call goes once the exporter was closed. -/
def ExporterCall.IsIdle (call : ExporterCall) (o : Outcome Exporter ExporterAnswer) : Prop :=
  o.journal.clientCalls = [] ∧
    match call with
    | .exportSpans _ => o.result = .ok (.exported .success) ∧ o.journal.sent = []
    | .exportSpan _ => True
    | .forceFlush => o.result = .ok (.flushed true) ∧ o.journal = []
    | .close | .shutdown => o.result = .ok .done ∧ o.journal = []

namespace ExporterCall

variable {e : Exporter}

theorem make_open (h : e.isClosed = false) {call : ExporterCall} (hc : call.closes = false) :
    (∃ n, (call.make e).state = e.handing n) ∧
      (call.make e).journal.clientCalls =
        List.replicate (if call.flushes then 1 else 0) (e.client.number, .flushed) := by
  cases call with
  | exportSpans spans =>
    have hx := Exporter.exportSpans_exported h spans
    rw [make, Call.map_apply]
    exact ⟨⟨_, hx.state⟩, hx.clientCalls⟩
  | exportSpan span =>
    have hx := Exporter.exportSpan_offered e span
    rw [make, Call.map_apply]
    exact ⟨⟨_, hx.state⟩, hx.clientCalls⟩
  | forceFlush =>
    obtain ⟨hstate, hcalls, -⟩ := Exporter.forceFlush_open h
    rw [make, Call.map_apply]
    exact ⟨⟨e.client.handed, hstate⟩, hcalls⟩
  | close => cases hc
  | shutdown => cases hc

theorem make_closing (h : e.isClosed = false) {call : ExporterCall} (hc : call.closes = true) :
    (call.make e).state =
        { e with isClosed := true, client := (Client.close e.client).state } ∧
      (call.make e).journal.clientCalls = [(e.client.number, .closed)] := by
  obtain ⟨hstate, hcalls, -, -⟩ := Exporter.close_open h
  cases call with
  | exportSpans spans => cases hc
  | exportSpan span => cases hc
  | forceFlush => cases hc
  | close => rw [make, Call.map_apply]; exact ⟨hstate, hcalls⟩
  | shutdown => rw [make, Call.map_apply]; exact ⟨hstate, hcalls⟩

theorem make_closed (h : e.isClosed = true) (call : ExporterCall) :
    (∃ n, (call.make e).state = e.handing n) ∧ call.IsIdle (call.make e) ∧
      (e.client.isOpen = false → (call.make e).journal.sent = []) := by
  cases call with
  | exportSpans spans =>
    rw [make, Call.map_apply, Exporter.exportSpans_closed h]
    exact ⟨⟨e.client.handed, rfl⟩, ⟨rfl, rfl, rfl⟩, fun _ => rfl⟩
  | exportSpan span =>
    -- This call does not ask whether the exporter is closed, so only the client keeps it back.
    have hx := Exporter.exportSpan_offered e span
    rw [make, Call.map_apply]
    refine ⟨⟨_, hx.state⟩, ⟨hx.clientCalls, trivial⟩, fun ho => ?_⟩
    have hd : e.delivers = false := by simp [Exporter.delivers, ho]
    rw [hx.sent, (Exporter.receive_of_not_delivers hd _ _).1, List.map_nil]
  | forceFlush =>
    rw [make, Call.map_apply, Exporter.forceFlush_closed h]
    exact ⟨⟨e.client.handed, rfl⟩, ⟨rfl, rfl, rfl⟩, fun _ => rfl⟩
  | close =>
    rw [make, Call.map_apply, Exporter.close_closed h]
    exact ⟨⟨e.client.handed, rfl⟩, ⟨rfl, rfl, rfl⟩, fun _ => rfl⟩
  | shutdown =>
    rw [make, Call.map_apply, Exporter.shutdown, Exporter.close_closed h]
    exact ⟨⟨e.client.handed, rfl⟩, ⟨rfl, rfl, rfl⟩, fun _ => rfl⟩

/-! ## Many calls -/

theorem stateAfter_open (h : e.isClosed = false) {calls : List ExporterCall}
    (hc : ∀ call ∈ calls, call.closes = false) :
    ∃ n, Call.stateAfter make calls e = e.handing n := by
  induction calls generalizing e with
  | nil => exact ⟨e.client.handed, rfl⟩
  | cons call rest ih =>
    obtain ⟨⟨m, hm⟩, -⟩ := make_open h (hc call List.mem_cons_self)
    rw [Call.stateAfter_cons, hm]
    obtain ⟨n, hn⟩ := ih (e := e.handing m) h fun c hmem => hc c (List.mem_cons_of_mem call hmem)
    exact ⟨n, hn⟩

theorem history_closed (h : e.isClosed = true) (calls : List ExporterCall) :
    List.Forall₂ IsIdle calls (Call.history make calls e) := by
  induction calls generalizing e with
  | nil => exact .nil
  | cons call rest ih =>
    obtain ⟨⟨n, hn⟩, hidle, -⟩ := make_closed h call
    refine .cons hidle ?_
    rw [hn]
    exact ih h

theorem clientCalls_closed (h : e.isClosed = true) (calls : List ExporterCall) :
    (Call.journalOf make calls e).clientCalls = [] := by
  induction calls generalizing e with
  | nil => rfl
  | cons call rest ih =>
    obtain ⟨⟨n, hn⟩, hidle, -⟩ := make_closed h call
    rw [Call.journalOf_cons, Journal.clientCalls_append, hidle.1, hn, ih (e := e.handing n) h]
    rfl

theorem sent_closed (h : e.isClosed = true) (ho : e.client.isOpen = false)
    (calls : List ExporterCall) : (Call.journalOf make calls e).sent = [] := by
  induction calls generalizing e with
  | nil => rfl
  | cons call rest ih =>
    obtain ⟨⟨n, hn⟩, -, hsent⟩ := make_closed h call
    rw [Call.journalOf_cons, Journal.sent_append, hsent ho, hn, ih (e := e.handing n) h ho]
    rfl

/-- All that is asked of the client: to flush for every call for that before the first that
closes, and to close for this one. -/
theorem clientCalls_eq (h : e.isClosed = false) (calls : List ExporterCall) :
    (Call.journalOf make calls e).clientCalls =
      List.replicate ((calls.takeWhile fun call => !call.closes).countP flushes)
          (e.client.number, .flushed) ++
        if calls.any closes then [(e.client.number, .closed)] else [] := by
  induction calls generalizing e with
  | nil => rfl
  | cons call rest ih =>
    rw [Call.journalOf_cons, Journal.clientCalls_append]
    -- The first call that closes ends the flushes that count, and nothing is asked after it.
    cases hc : call.closes with
    | true =>
      obtain ⟨hstate, hcalls⟩ := make_closing h hc
      rw [hcalls, clientCalls_closed (by rw [hstate])]
      simp [hc]
    | false =>
      obtain ⟨⟨n, hn⟩, hcalls⟩ := make_open h hc
      rw [hcalls, hn, ih (e := e.handing n) h, ← List.append_assoc]
      simp only [Exporter.handing_number, List.any_cons, List.takeWhile_cons, hc, Bool.not_false,
        if_true, Bool.false_or, List.countP_cons, List.replicate_append_replicate]
      rw [Nat.add_comm]

end ExporterCall

namespace Exporter

/-- The client is asked to flush for every flush before the exporter is closed first and for none
after, and is asked to close once if the exporter ever is. From then on, whether or not the client
closed, an export succeeds and a flush returns at once, and neither hands anything over. No call
does if the client closed. -/
theorem journalOf_calls (e : Exporter) (hopen : e.isClosed = false) (calls : List ExporterCall) :
    (Call.journalOf ExporterCall.make calls e).clientCalls =
      List.replicate ((calls.takeWhile fun call => !call.closes).countP ExporterCall.flushes)
          (e.client.number, .flushed) ++
        (if calls.any ExporterCall.closes then [(e.client.number, .closed)] else []) ∧
    ∀ before closing after, calls = before ++ closing :: after →
      (∀ call ∈ before, call.closes = false) → closing.closes = true →
      let last := Call.stateAfter ExporterCall.make before e
      let closed := (closing.make last).state
      List.Forall₂ ExporterCall.IsIdle after (Call.history ExporterCall.make after closed) ∧
        ((Client.close last.client).result = .ok () →
          (Call.journalOf ExporterCall.make after closed).sent = []) := by
  refine ⟨ExporterCall.clientCalls_eq hopen calls, ?_⟩
  rintro before closing after rfl hbefore hclosing
  obtain ⟨n, hn⟩ := ExporterCall.stateAfter_open hopen hbefore
  have hlast : (Call.stateAfter ExporterCall.make before e).isClosed = false := by
    rw [hn]; exact hopen
  obtain ⟨hstate, -⟩ := ExporterCall.make_closing hlast hclosing
  have hclosed : (closing.make (Call.stateAfter ExporterCall.make before e)).state.isClosed =
      true := by rw [hstate]
  refine ⟨ExporterCall.history_closed hclosed after, fun hok => ?_⟩
  refine ExporterCall.sent_closed hclosed ?_ after
  rw [hstate]
  exact Client.isOpen_close hok

def earlyCalls : List ExporterCall := [.forceFlush, .exportSpans mixedBatch]

def lateCalls : List ExporterCall :=
  [.exportSpan ⟨.text "late", some ⟨1, 4⟩, none, none, none, none, .empty, []⟩, .shutdown,
    .exportSpans mixedBatch, .forceFlush]

theorem journalOf_lateCalls :
    refusingThird.isClosed = false ∧
    (Call.journalOf ExporterCall.make (earlyCalls ++ .close :: lateCalls)
      refusingThird).clientCalls = [(7, .flushed), (7, .closed)] ∧
    (Call.journalOf ExporterCall.make lateCalls
      (Call.stateAfter ExporterCall.make (earlyCalls ++ [.close]) refusingThird)).sent = [] := by
  obtain ⟨hcalls, hafter⟩ := journalOf_calls refusingThird rfl (earlyCalls ++ .close :: lateCalls)
  have hbefore : ∀ call ∈ earlyCalls, ExporterCall.closes call = false := by
    simp [earlyCalls, ExporterCall.closes]
  exact ⟨rfl, hcalls, (hafter earlyCalls .close lateCalls rfl hbefore rfl).2 rfl⟩

end Exporter

end SpanExport
