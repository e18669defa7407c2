import SpanExport.Tracing.Session

/-!
# Quiet calls

Starting a span and changing it touch the spans, the clock and the identifiers of a session, and
nothing else. Ending a span is quiet until it is passed on to the processors of its provider.
-/

namespace SpanExport.Session

/-- What a call leaves that touches neither providers nor clients. -/
structure Quiet {α : Type} (s : Session) (o : Outcome Session α) : Prop where
  providers : o.state.providers = s.providers
  current : o.state.current = s.current
  global : o.state.global = s.global
  clients : o.state.clients = s.clients
  environment : o.state.environment = s.environment
  sdk : o.state.sdk = s.sdk
  backend : o.state.backend = s.backend
  journal : o.journal = []

variable {s : Session}

namespace Quiet

variable {α β : Type}

theorem after {t : Session} {journal : Journal} {result : Except Failure α}
    {o : Outcome Session β} (h : Quiet s ⟨t, journal, result⟩) (ho : Quiet t o) :
    Quiet s (o.after journal) := by
  refine ⟨ho.providers.trans h.providers, ho.current.trans h.current, ho.global.trans h.global,
    ho.clients.trans h.clients, ho.environment.trans h.environment, ho.sdk.trans h.sdk,
    ho.backend.trans h.backend, ?_⟩
  have hj : journal = [] := h.journal
  rw [Outcome.after_journal, hj, ho.journal]
  rfl

theorem ending {t : Session} {journal : Journal} {result : Except Failure α}
    (h : Quiet s ⟨t, journal, result⟩) (other : Except Failure β) : Quiet s ⟨t, journal, other⟩ :=
  ⟨h.providers, h.current, h.global, h.clients, h.environment, h.sdk, h.backend, h.journal⟩

theorem bind {x : Call Session α} {f : α → Call Session β} (hx : Quiet s (x s))
    (hf : ∀ a t, Quiet t (f a t)) : Quiet s ((x >>= f) s) := by
  rcases Call.bind_cases x f s with ⟨t, journal, failure, ho, hb⟩ | ⟨t, journal, a, ho, hb⟩
  · rw [ho] at hx
    rw [hb]
    exact hx.ending _
  · rw [ho] at hx
    rw [hb]
    exact hx.after (hf a t)

end Quiet

/-! ## Parts of calls -/

theorem pure_quiet {α : Type} (a : α) (s : Session) : Quiet s ((pure a : Call Session α) s) :=
  ⟨rfl, rfl, rfl, rfl, rfl, rfl, rfl, rfl⟩

theorem ofExcept_quiet {α : Type} (result : Except Failure α) (s : Session) :
    Quiet s (Call.ofExcept result s) :=
  ⟨rfl, rfl, rfl, rfl, rfl, rfl, rfl, rfl⟩

theorem readClock_quiet (s : Session) : Quiet s (readClock s) :=
  ⟨rfl, rfl, rfl, rfl, rfl, rfl, rfl, rfl⟩

theorem drawSpanId_quiet (s : Session) : Quiet s (drawSpanId s) :=
  ⟨rfl, rfl, rfl, rfl, rfl, rfl, rfl, rfl⟩

theorem addSpan_quiet (span : LiveSpan) (s : Session) : Quiet s (addSpan span s) :=
  ⟨rfl, rfl, rfl, rfl, rfl, rfl, rfl, rfl⟩

theorem record_quiet (number : Nat) (change : Recording → Recording) (s : Session) :
    Quiet s (record number change s) :=
  ⟨rfl, rfl, rfl, rfl, rfl, rfl, rfl, rfl⟩

theorem trace_quiet (sampler : Sampling.Policy) (parent : Option LiveSpan) (s : Session) :
    Quiet s (trace sampler parent s) := by
  cases parent with
  | none => exact ⟨rfl, rfl, rfl, rfl, rfl, rfl, rfl, rfl⟩
  | some p => exact pure_quiet _ s

theorem timed_quiet {α : Type} (time : Option Int) {f : Int → Call Session α}
    (hf : ∀ now t, Quiet t (f now t)) (s : Session) :
    Quiet s ((match time with
      | some t => pure t >>= f
      | none => readClock >>= f : Call Session α) s) := by
  cases time with
  | none => exact Quiet.bind (readClock_quiet s) hf
  | some now => exact Quiet.bind (pure_quiet now s) hf

/-! ## Calls on a span -/

theorem start_quiet (name : Value) (parent : Option Nat) (attributes : Fields)
    (time : Option Int) (s : Session) : Quiet s (start name parent attributes time s) := by
  unfold start
  rw [Call.get_bind_apply]
  rcases s.maker? with _ | ⟨number, provider⟩
  · exact addSpan_quiet _ s
  · refine Quiet.bind (trace_quiet _ _ s) ?_
    rintro ⟨traceId, isSampled⟩ t
    refine Quiet.bind (drawSpanId_quiet t) fun spanId u => ?_
    cases isSampled with
    | false => exact addSpan_quiet _ u
    | true =>
      refine Quiet.bind (ofExcept_quiet _ u) fun kept v => ?_
      exact timed_quiet time (fun start w => addSpan_quiet _ w) v

theorem setAttribute_quiet (number : Nat) (key : String) (value : Value) (s : Session) :
    Quiet s (setAttribute number key value s) := by
  unfold setAttribute
  rw [Call.get_bind_apply]
  rcases s.recording? number with _ | ⟨provider, r⟩
  · exact pure_quiet _ s
  · simp only
    split
    · exact pure_quiet _ s
    · exact Quiet.bind (ofExcept_quiet _ s) fun kept t => record_quiet _ _ t

theorem addNote_quiet (number : Nat) (name : String) (attributes : Fields) (time : Option Int)
    (s : Session) : Quiet s (addNote number name attributes time s) := by
  unfold addNote
  rw [Call.get_bind_apply]
  rcases s.recording? number with _ | ⟨provider, r⟩
  · exact pure_quiet _ s
  · refine Quiet.bind (ofExcept_quiet _ s) fun kept t => ?_
    exact timed_quiet time (fun now u => record_quiet _ _ u) t

/-- What a span is passed on as when it ends, and to the processors of which provider. There is
nothing to pass on of a span that is not recorded or has ended before. -/
def endedSpan? (s : Session) (number : Nat) (time : Option Int) : Option (Nat × Span) :=
  match s.recording? number with
  | none => none
  | some (provider, r) =>
    if r.isEnded then none
    else some (provider, { r with finish := some (time.getD s.clock.head) : Recording }.span)

theorem finish_of_none {number : Nat} {time : Option Int} {s : Session}
    (h : s.endedSpan? number time = none) : finish number time s = ⟨s, [], .ok ()⟩ := by
  unfold endedSpan? at h
  unfold finish
  rw [Call.get_bind_apply]
  cases hr : s.recording? number with
  | none => rfl
  | some held =>
    obtain ⟨provider, r⟩ := held
    have hended : r.isEnded = true := by simpa [hr] using h
    simp only [hended, if_true]
    rfl

theorem finish_of_some {number provider : Nat} {time : Option Int} {span : Span} {s : Session}
    (h : s.endedSpan? number time = some (provider, span)) :
    ∃ (t : Session) (ended : Recording), Quiet s ⟨t, [], .ok ()⟩ ∧ ended.isEnded = true ∧
      t.spans = (record number (fun _ => ended) s).state.spans ∧
      finish number time s = onProcessors provider (.each (Processor.onEnd span)) t := by
  unfold endedSpan? at h
  unfold finish
  rw [Call.get_bind_apply]
  cases hr : s.recording? number with
  | none => simp [hr] at h
  | some held =>
    obtain ⟨maker, r⟩ := held
    cases hended : r.isEnded with
    | true => simp [hr, hended] at h
    | false =>
      simp only [hr, hended, Bool.false_eq_true, if_false, Option.some.injEq, Prod.mk.injEq] at h
      obtain ⟨rfl, rfl⟩ := h
      simp only [hended]
      let ended := { r with finish := some (time.getD s.clock.head) }
      cases time with
      | none =>
        refine ⟨(record number (fun _ => ended) { s with clock := s.clock.tail }).state, ended, ?_,
          rfl, rfl, rfl⟩
        exact ⟨rfl, rfl, rfl, rfl, rfl, rfl, rfl, rfl⟩
      | some now =>
        refine ⟨(record number (fun _ => ended) s).state, ended, ?_, rfl, rfl, rfl⟩
        exact record_quiet number (fun _ => ended) s

theorem finish_cases (number : Nat) (time : Option Int) (s : Session) :
    Quiet s (finish number time s) ∨
      ∃ (t : Session) (provider : Nat) (span : Span), Quiet s ⟨t, [], .ok ()⟩ ∧
        finish number time s = onProcessors provider (.each (Processor.onEnd span)) t := by
  cases h : s.endedSpan? number time with
  | none =>
    left
    rw [finish_of_none h]
    exact pure_quiet () s
  | some passed =>
    right
    obtain ⟨t, ended, hq, -, -, hf⟩ := finish_of_some h
    exact ⟨t, passed.1, passed.2, hq, hf⟩

end SpanExport.Session
