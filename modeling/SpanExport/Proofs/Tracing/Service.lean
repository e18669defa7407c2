import SpanExport.Proofs.Tracing.Sessions

/-!
# Sessions in service

A session serves an exporter while its current provider passes spans on to it, each as it ends.
Spans that start, change and end keep it in service. Whether the provider stays after the
shutdown then depends on nothing but whether the client refuses to close.
-/

namespace SpanExport

namespace Processor

/-! ## One processor -/

/-- A processor that passes spans on to the exporter as they end. -/
def passing (e : Exporter) : Processor := { kind := .simple, sink := .exporter e }

theorem onEnd_succeeds (span : Span) : Call.Succeeds (onEnd span) := by
  intro p
  unfold onEnd
  rw [Call.get_bind_apply]
  cases p.isStopped with
  | true => exact ⟨(), rfl⟩
  | false =>
    cases p.kind with
    | simple => exact ⟨(), (onSink_accept_kept p [span]).2⟩
    | batch => exact ⟨(), rfl⟩

theorem onEnd_passing {e : Exporter} (hopen : e.isClosed = false) (span : Span) :
    (∃ handed, (onEnd span (passing e)).state = passing (e.handing handed)) ∧
      (onEnd span (passing e)).journal.sent =
        (e.receive e.client.handed (e.offers span)).events.map (e.client.number, ·) := by
  have hx := Exporter.exportSpans_exported hopen [span]
  refine ⟨⟨e.handedAfter e.client.handed [span], ?_⟩, ?_⟩
  · rw [← hx.state]
    rfl
  · have hsent := hx.sent
    simp only [Exporter.contributions, List.flatten_cons, List.flatten_nil, List.append_nil] at hsent
    rw [← hsent]
    rfl

theorem shutdown_passing {e : Exporter} (hopen : e.isClosed = false) :
    (shutdown (passing e)).result = (Client.close e.client).result ∧
      (shutdown (passing e)).journal.clientCalls = [(e.client.number, .closed)] ∧
      (shutdown (passing e)).journal.sent = [] := by
  obtain ⟨-, hcalls, hsent, hresult⟩ := Exporter.close_open hopen
  exact ⟨hresult, hcalls, hsent⟩

theorem shutdown_detached {p : Processor} (h : p.lifeline? = none) :
    (shutdown p).journal = [] ∧ (shutdown p).result = .ok () := by
  obtain ⟨kind, sink, queue, isStopped⟩ := p
  cases sink with
  | exporter e => cases h
  | memory number received stopped =>
    cases kind with
    | simple => exact ⟨rfl, rfl⟩
    | batch =>
      cases isStopped with
      | true => exact ⟨rfl, rfl⟩
      | false => cases queue <;> exact ⟨rfl, rfl⟩

/-! ## The processors of a provider -/

/-- The first processor passes spans on to the exporter, which may have handed over some. None of
the others has an exporter. -/
def Feeds (e : Exporter) (ps : List Processor) : Prop :=
  ∃ handed others, ps = passing (e.handing handed) :: others ∧ lifelines others = []

variable {e : Exporter} {ps : List Processor}

theorem Feeds.onEnd (h : Feeds e ps) (hopen : e.isClosed = false) (span : Span) :
    let o := Call.each (onEnd span) ps
    Feeds e o.state ∧ ∃ handed, o.journal.sent =
      (e.receive handed (e.offers span)).events.map (e.client.number, ·) := by
  obtain ⟨handed, others, rfl, hothers⟩ := h
  obtain ⟨⟨later, hstate⟩, hsent⟩ := onEnd_passing (e := e.handing handed) hopen span
  obtain ⟨u, hresult⟩ := onEnd_succeeds span (passing (e.handing handed))
  have hrest := each_kept (fun p => onEnd_kept p span) others
  have hquiet : (Call.each (Processor.onEnd span) others).journal.sent = [] :=
    hrest.sent fun l hl => by simp [hothers] at hl
  simp only [Exporter.handing_receive, Exporter.handing_handed, Exporter.handing_offers,
    Exporter.handing_number, Exporter.handing_handing] at hsent hstate
  rw [Call.each_cons_of_ok hresult]
  refine ⟨⟨later, _, by rw [hstate], hrest.lifelines.trans hothers⟩, handed, ?_⟩
  simp [hsent, hquiet]

theorem Feeds.ne_nil (h : Feeds e ps) : ps ≠ [] := by
  obtain ⟨handed, others, rfl, -⟩ := h
  simp

theorem Feeds.flushAll (h : Feeds e ps) :
    Feeds e (flushAll ps).state ∧ (flushAll ps).journal.sent = [] := by
  obtain ⟨handed, others, rfl, hothers⟩ := h
  -- Only the first processor has an exporter, and it holds no span back.
  have hfirst : flush (passing (e.handing handed)) =
      ⟨passing (e.handing handed), [], .ok true⟩ := rfl
  have hrest := flushAll_kept others
  rw [flushAll_cons_of_ok (by rw [hfirst]), hfirst]
  refine ⟨⟨handed, _, rfl, hrest.lifelines.trans hothers⟩, ?_⟩
  exact hrest.sent fun l hl => by simp [hothers] at hl

theorem each_shutdown_detached {others : List Processor} (h : lifelines others = []) :
    (Call.each shutdown others).journal = [] ∧ (Call.each shutdown others).result = .ok () := by
  induction others with
  | nil => exact ⟨rfl, rfl⟩
  | cons p rest ih =>
    rw [lifelines_cons, List.append_eq_nil_iff, Option.toList_eq_nil_iff] at h
    obtain ⟨hjournal, hresult⟩ := shutdown_detached h.1
    rw [Call.each_cons_of_ok hresult]
    simp [hjournal, ih h.2]

theorem Feeds.shutdown (h : Feeds e ps) (hopen : e.isClosed = false)
    (hclient : e.client.isOpen = true) :
    let o := Call.each shutdown ps
    o.result = (match e.client.transmission.closeError with
      | none => .ok ()
      | some message => .error (.client message)) ∧
      o.journal.clientCalls = [(e.client.number, .closed)] ∧ o.journal.sent = [] := by
  obtain ⟨handed, others, rfl, hothers⟩ := h
  obtain ⟨hresult, hcalls, hsent⟩ := shutdown_passing (e := e.handing handed) hopen
  obtain ⟨hnothing, hdone⟩ := each_shutdown_detached hothers
  rw [Client.result_close (c := (e.handing handed).client) hclient,
    Exporter.handing_transmission] at hresult
  cases he : e.client.transmission.closeError with
  | none =>
    rw [he] at hresult
    rw [Call.each_cons_of_ok hresult]
    refine ⟨hdone, ?_, ?_⟩
    · simp [hcalls, hnothing]
    · simp [hsent, hnothing]
  | some message =>
    rw [he] at hresult
    rw [Call.each_cons_of_error hresult]
    exact ⟨rfl, hcalls, hsent⟩

end Processor

namespace Session

variable {s : Session} {e : Exporter}

/-! ## Processors in a session -/

theorem Quiet.processors {α : Type} {o : Outcome Session α} (h : Quiet s o) (number : Nat) :
    o.state.processors number = s.processors number := by
  unfold Session.processors provider?
  rw [h.providers]

theorem processors_onProcessors {α : Type} {number : Nat} {call : Call (List Processor) α}
    (h : s.processors number ≠ []) :
    (onProcessors number call s).state.processors number =
      (call (s.processors number)).state := by
  unfold Session.processors provider? at h ⊢
  rw [providers_onProcessors, List.getElem?_modify]
  cases hp : s.providers[number]? with
  | none => simp [hp] at h
  | some provider => simp [Session.processors, provider?, hp]

theorem processors_onProcessors_of_ne {α : Type} {i number : Nat} (hi : i ≠ number)
    (call : Call (List Processor) α) :
    (onProcessors i call s).state.processors number = s.processors number := by
  unfold Session.processors provider?
  rw [providers_onProcessors, List.getElem?_modify]
  simp [hi]

theorem finish_succeeds (number : Nat) (time : Option Int) :
    Call.Succeeds (finish number time) := by
  intro s
  cases h : s.endedSpan? number time with
  | none => exact ⟨(), by rw [finish_of_none h]⟩
  | some passed =>
    obtain ⟨t, ended, -, -, -, hf⟩ := finish_of_some h
    rw [hf]
    exact (Processor.onEnd_succeeds passed.2).each (t.processors passed.1)

/-! ## In service -/

/-- The current provider passes spans on to the exporter. -/
def Serves (e : Exporter) (s : Session) : Prop :=
  ∃ number, s.current = some number ∧ Processor.Feeds e (s.processors number)

theorem Quiet.serves {α : Type} {o : Outcome Session α} (h : Quiet s o) (hs : Serves e s) :
    Serves e o.state := by
  obtain ⟨number, hcurrent, hfeeds⟩ := hs
  refine ⟨number, ?_, ?_⟩
  · rw [h.current, hcurrent]
  · rw [h.processors]
    exact hfeeds

theorem onEnd_serves (hopen : e.isClosed = false) (provider : Nat) (span : Span) :
    Call.Preserves (Serves e) (onProcessors provider (.each (Processor.onEnd span))) := by
  rintro s ⟨number, hcurrent, hfeeds⟩
  refine ⟨number, hcurrent, ?_⟩
  by_cases hp : provider = number
  · subst hp
    rw [processors_onProcessors hfeeds.ne_nil]
    exact (hfeeds.onEnd hopen span).1
  · rw [processors_onProcessors_of_ne hp]
    exact hfeeds

theorem Serves.onEnd_sent (h : Serves e s) (hopen : e.isClosed = false)
    (hrefusal : ∀ k event, e.client.transmission.refusal k event = none) {provider : Nat}
    (hc : s.current = some provider) (span : Span) :
    (onProcessors provider (.each (Processor.onEnd span)) s).journal.sent = e.records span := by
  obtain ⟨number, hcurrent, hfeeds⟩ := h
  cases hcurrent.symm.trans hc
  obtain ⟨-, handed, hsent⟩ := hfeeds.onEnd hopen span
  rw [Exporter.records, ← Exporter.receive_events_eq hrefusal handed 0]
  exact hsent

theorem finish_serves (hopen : e.isClosed = false) (number : Nat) (time : Option Int) :
    Call.Preserves (Serves e) (finish number time) := by
  intro s hs
  rcases finish_cases number time s with hq | ⟨t, provider, span, hq, hf⟩
  · exact hq.serves hs
  · rw [hf]
    exact onEnd_serves hopen provider span t (hq.serves hs)

theorem provider?_withProvider (s : Session) (c : Configuration) (kind : ProcessorKind)
    (settings : ProviderSettings) (e : Exporter) (memories : List Nat) :
    (s.withProvider c kind settings e memories).provider? s.providers.length = some
      { toProviderSettings := settings, serviceName := s.resourceName c.serviceName,
        processors := { kind, sink := .exporter e } ::
          memories.map fun n => { kind, sink := .memory n [] false } } :=
  List.getElem?_concat_length

theorem withProvider_serves (c : Configuration) (settings : ProviderSettings) (e : Exporter)
    (memories : List Nat) : Serves e (s.withProvider c .simple settings e memories) := by
  refine ⟨s.providers.length, rfl, e.client.handed, _, ?_,
    Processor.lifelines_memories .simple memories⟩
  unfold processors
  rw [provider?_withProvider]
  rfl

theorem flush_serves (hs : Serves e s) :
    Serves e (flush s).state ∧ (flush s).journal.sent = [] := by
  obtain ⟨number, hcurrent, hfeeds⟩ := hs
  obtain ⟨hkept, hsent⟩ := hfeeds.flushAll
  unfold flush
  rw [Call.get_bind_apply, hcurrent]
  simp only
  rw [bind_pure_comp, Call.map_apply]
  refine ⟨⟨number, hcurrent, ?_⟩, hsent⟩
  rw [processors_onProcessors hfeeds.ne_nil]
  exact hkept

/-! ## Out of service -/

/-- Nothing but the client keeps the provider from being shut down. -/
theorem shutdown_serves (hopen : e.isClosed = false) (hclient : e.client.isOpen = true)
    (hs : Serves e s) :
    (shutdown s).state.isConfigured = e.client.transmission.closeError.isSome ∧
      (shutdown s).result = (match e.client.transmission.closeError with
        | none => .ok ()
        | some message => .error (.client message)) ∧
      (shutdown s).journal.clientCalls = [(e.client.number, .closed)] ∧
      (shutdown s).journal.sent = [] := by
  obtain ⟨number, hcurrent, hfeeds⟩ := hs
  obtain ⟨hresult, hcalls, hsent⟩ := hfeeds.shutdown hopen hclient
  have hjournal : (onProcessors number (.each Processor.shutdown) s).journal =
      (Call.each Processor.shutdown (s.processors number)).journal := rfl
  cases he : e.client.transmission.closeError with
  | none =>
    rw [he] at hresult
    rw [shutdown_of_ok hcurrent hresult]
    refine ⟨rfl, rfl, ?_, ?_⟩
    · simp [hjournal, hcalls]
    · simp [hjournal, hsent]
  | some message =>
    rw [he] at hresult
    rw [shutdown_of_error hcurrent hresult]
    refine ⟨?_, rfl, ?_, ?_⟩
    · change s.current.isSome = true
      rw [hcurrent]
      rfl
    · simp [hjournal, hcalls]
    · simp [hjournal, hsent]

end Session

end SpanExport
