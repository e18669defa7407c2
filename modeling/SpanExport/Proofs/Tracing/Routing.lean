import SpanExport.Proofs.Tracing.Periods
import SpanExport.Proofs.Tracing.Service
import SpanExport.Proofs.Tracing.Shutdown

/-!
# Routing

Where nothing is set up over a provider that is still current, and nothing is refused, a session
records just what its periods say: the spans of a period at the client of its setup, in the order
in which they end.
-/

namespace SpanExport

/-! ## Plain calls -/

/-- No trace is sampled out. A fraction that is admitted is then zero or one. -/
def Configuration.KeepsAll (c : Configuration) : Prop :=
  ∀ x, c.sampleFraction = .float x → x.isProperFraction = false

/-- Spans are passed on as they end, all traces are kept, and a client of the caller is reliable. -/
def SessionCall.IsPlain : SessionCall → Prop
  | .setup own c kind _ => (∀ o ∈ own, o.transmission.IsReliable) ∧ kind = .simple ∧ c.KeepsAll
  | _ => True

theorem SessionCall.IsPlain.smooth {call : SessionCall} (h : call.IsPlain) : call.IsSmooth := by
  cases call with
  | setup own c kind memories => exact fun o ho => (h.1 o ho).2
  | _ => exact trivial

theorem Configuration.KeepsAll.sampler {c : Configuration} (h : c.KeepsAll)
    {sampler : Sampling.Sampler} (hs : Sampling.Sampler.ofValue c.sampleFraction = .ok sampler) :
    sampler = .always ∧ c.sampleFraction.quantity?.isSome = true := by
  unfold Sampling.Sampler.ofValue Value.comparand at hs
  cases hq : c.sampleFraction.quantity? with
  | none => simp [hq, Functor.map, Except.map] at hs
  | some q =>
    simp only [hq, Functor.map, Except.map, Except.ok.injEq] at hs
    refine ⟨?_, rfl⟩
    rw [← hs]
    cases q with
    | bool b => rfl
    | int n => rfl
    | float x =>
      have hx : c.sampleFraction = .float x := by
        revert hq
        cases c.sampleFraction <;> simp [Value.quantity?]
      simp [Sampling.Sampler.ofFraction, h x hx]

namespace Session

variable {s : Session}

/-! ## Settings -/

def settings (s : Session) : List ProviderSettings := s.providers.map Provider.toProviderSettings

theorem settings_onProcessors {α : Type} (number : Nat) (call : Call (List Processor) α) :
    (onProcessors number call s).state.settings = s.settings := by
  unfold settings
  rw [providers_onProcessors]
  apply List.ext_getElem?
  intro i
  rw [List.getElem?_map, List.getElem?_modify, List.getElem?_map]
  cases s.providers[i]? with
  | none => rfl
  | some provider => by_cases hi : number = i <;> simp [hi]

theorem Quiet.settings {α : Type} {o : Outcome Session α} (h : Quiet s o) :
    o.state.settings = s.settings := by
  unfold Session.settings
  rw [h.providers]

/-! ## Surroundings -/

/-- What a session is given and no call changes. -/
def surroundings (s : Session) : Environment × Sdk × Backend := (s.environment, s.sdk, s.backend)

theorem Quiet.surroundings {α : Type} {o : Outcome Session α} (h : Quiet s o) :
    o.state.surroundings = s.surroundings := by
  unfold Session.surroundings
  rw [h.environment, h.sdk, h.backend]

/-- Every span is recorded, and the clients that the backend makes take every event. -/
structure IsFavoured (s : Session) : Prop where
  recordsAll : s.sdk.RecordsAll s.environment
  refusal : ∀ k event, s.backend.transmission.refusal k event = none

theorem IsFavoured.of_eq (h : s.IsFavoured) {t : Session}
    (ht : t.surroundings = s.surroundings) : t.IsFavoured := by
  unfold Session.surroundings at ht
  simp only [Prod.mk.injEq] at ht
  obtain ⟨henvironment, hsdk, hbackend⟩ := ht
  constructor
  · rw [hsdk, henvironment]
    exact h.recordsAll
  · rw [hbackend]
    exact h.refusal

/-! ## What the session has of a period -/

/-- The exporter of the period records what is passed on, and the current provider holds just the
spans that are running. -/
structure Hosts (p : Period) (s : Session) : Prop where
  isOpen : p.exporter.isClosed = false
  clientOpen : p.exporter.client.isOpen = true
  refusal : ∀ k event, p.exporter.client.transmission.refusal k event = none
  isNumber : p.exporter.sampleFraction.quantity?.isSome = true
  serves : Serves p.exporter s
  running : ∀ number, number ∈ p.running ↔
    ∃ o, s.outlines[number]? = some o ∧ o.holder = s.current

structure Follows (period : Option Period) (s : Session) : Prop where
  favoured : s.IsFavoured
  recordsAll : ∀ settings ∈ s.settings, settings.RecordsAll
  sampled : ∀ o ∈ s.outlines, o.context.isValid = true → o.isSampled = true
  held : ∀ o ∈ s.outlines, ∀ number ∈ o.holder, number < s.settings.length
  period : match period with
    | none => s.current = none
    | some p => Hosts p s

variable {period : Option Period}

theorem Hosts.current {p : Period} (h : Hosts p s) : s.current ≠ none := by
  obtain ⟨number, hcurrent, -⟩ := h.serves
  simp [hcurrent]

theorem Follows.of_eq (h : Follows period s) {t : Session}
    (surroundings : t.surroundings = s.surroundings) (settings : t.settings = s.settings)
    (outlines : t.outlines = s.outlines) (current : t.current = s.current)
    (serves : ∀ e, Serves e s → Serves e t) : Follows period t := by
  refine ⟨h.favoured.of_eq surroundings, ?_, ?_, ?_, ?_⟩
  · rw [settings]
    exact h.recordsAll
  · rw [outlines]
    exact h.sampled
  · rw [outlines, settings]
    exact h.held
  · cases period with
    | none => exact current.trans h.period
    | some p =>
      obtain ⟨hopen, hclient, hrefusal, hnumber, hserves, hrunning⟩ := h.period
      refine ⟨hopen, hclient, hrefusal, hnumber, serves _ hserves, ?_⟩
      rw [outlines, current]
      exact hrunning

theorem Follows.of_quiet (h : Follows period s) {α : Type} {o : Outcome Session α}
    (hq : Quiet s o) (houtlines : o.state.outlines = s.outlines) : Follows period o.state :=
  h.of_eq hq.surroundings hq.settings houtlines hq.current fun _ hs => hq.serves hs

/-! ## Setups -/

theorem setup_follows (h : Follows period s) {own : Option OwnClient} {c : Configuration}
    {kind : ProcessorKind} {memories : List Nat}
    (hc : (SessionCall.setup own c kind memories).IsPlain) :
    let call := SessionCall.setup own c kind memories
    Follows (Period.next s call period) (call.make s).state ∧ (call.make s).journal.sent = [] := by
  obtain ⟨hown, rfl, hkeeps⟩ := hc
  simp only [Period.next]
  obtain ⟨clients, journal, hsent, ⟨hnone, failure, hmake⟩ | ⟨e, settings, hsome, hsettings, hmake⟩⟩ :=
    SessionCall.make_setup_cases own c .simple memories s
  · rw [hnone, hmake]
    exact ⟨h.of_eq rfl rfl rfl rfl fun _ hs => hs, hsent⟩
  · rw [hsome, hmake]
    refine ⟨?_, hsent⟩
    obtain ⟨made, hmade, rfl⟩ := exporterFor?_eq_some hsome
    obtain ⟨-, hopen, htransmission⟩ := clientFor_eq_ok hmade
    obtain ⟨-, sampler, hsampler, hread⟩ := settingsFor_eq_ok.1 hsettings
    obtain ⟨rfl, hnumber⟩ := hkeeps.sampler hsampler
    let t : Session := { s with clients }.withProvider c .simple settings
      (Exporter.make made c.sampleFraction c.serviceName) memories
    have hall : t.settings = s.settings ++ [settings] := List.map_append
    refine ⟨h.favoured.of_eq rfl, ?_, h.sampled, ?_, rfl, hopen, ?_, hnumber,
      withProvider_serves _ _ _ _, ?_⟩
    · rw [hall, List.forall_mem_append, List.forall_mem_singleton]
      exact ⟨h.recordsAll, h.favoured.recordsAll.always hread⟩
    · rw [hall]
      intro o ho number hn
      have := h.held o ho number hn
      simp only [List.length_append, List.length_singleton]
      omega
    · change ∀ k event, made.transmission.refusal k event = none
      rw [htransmission]
      cases own with
      | none => exact h.favoured.refusal
      | some own => exact (hown own rfl).1
    · -- The number of the new provider is beyond those that hold a span.
      intro number
      simp only [List.not_mem_nil, false_iff, not_exists, not_and]
      intro o ho hholder
      have hlt := h.held o (List.mem_of_getElem? ho) s.providers.length hholder
      rw [Session.settings, List.length_map] at hlt
      omega

/-! ## Spans -/

theorem Follows.parent_sampled (h : Follows period s) {parent : Option Nat} {span : LiveSpan}
    (hp : s.parent? parent = some span) : span.isSampled = true := by
  unfold parent? at hp
  obtain ⟨hspan, hvalid⟩ := Option.filter_eq_some_iff.1 hp
  obtain ⟨number, -, hget⟩ := Option.bind_eq_some_iff.1 hspan
  exact h.sampled span.outline (List.mem_map_of_mem (List.mem_of_getElem? hget)) hvalid

theorem Follows.newOutline (h : Follows period s) {parent : Option Nat} {o : Outline}
    (ho : s.IsNewOutline parent o) :
    (s.maker? = none ∧ o = ⟨.invalid, false, none⟩) ∨
      ∃ number, s.active = some number ∧ number < s.settings.length ∧ o.isSampled = true ∧
        o.holder = some number := by
  unfold IsNewOutline at ho
  cases hmaker : s.maker? with
  | none =>
    rw [hmaker] at ho
    exact .inl ⟨rfl, ho⟩
  | some maker =>
    obtain ⟨number, provider⟩ := maker
    rw [hmaker] at ho
    obtain ⟨hsampled, hholder⟩ := ho
    obtain ⟨hactive, hprovider, -⟩ := maker?_eq_some.1 hmaker
    have hlt : number < s.providers.length := (List.getElem?_eq_some_iff.1 hprovider).1
    have hkeeps : provider.sampler.KeepsAll :=
      (h.recordsAll _ (List.mem_map_of_mem (List.mem_of_getElem? hprovider))).keepsAll
    have hkept : o.isSampled = true := by
      rw [hsampled]
      cases hparent : s.parent? parent with
      | none => exact hkeeps none _ nofun
      | some span =>
        have hspan : some span.isSampled ≠ some false := by simp [h.parent_sampled hparent]
        exact hkeeps _ _ hspan
    refine .inr ⟨number, hactive, ?_, hkept, ?_⟩
    · rw [settings, List.length_map]
      exact hlt
    · rw [hholder, hkept]
      rfl

theorem Serves.active {e : Exporter} (h : Serves e s) :
    ∃ number provider, s.current = some number ∧ s.active = some number ∧
      s.provider? number = some provider := by
  obtain ⟨number, hcurrent, hfeeds⟩ := h
  have hactive : s.active = some number := by
    unfold Session.active
    rw [hcurrent]
    rfl
  cases hprovider : s.provider? number with
  | some provider => exact ⟨number, provider, hcurrent, hactive, hprovider⟩
  | none =>
    refine absurd ?_ hfeeds.ne_nil
    unfold processors
    rw [hprovider]
    rfl

theorem Follows.maker (h : Follows period s) {e : Exporter} (hserves : Serves e s) :
    s.active = s.current ∧ s.maker? ≠ none := by
  obtain ⟨number, provider, hcurrent, hactive, hprovider⟩ := hserves.active
  have henabled : provider.isDisabled = false :=
    (h.recordsAll _ (List.mem_map_of_mem (List.mem_of_getElem? hprovider))).isEnabled
  refine ⟨hactive.trans hcurrent.symm, ?_⟩
  rw [maker?_eq_some.2 ⟨hactive, hprovider, henabled⟩]
  nofun

theorem start_follows (h : Follows period s) (name : Value) (parent : Option Nat)
    (attributes : Fields) (time : Option Int) :
    Follows (Period.next s (.start name parent attributes time) period)
      (start name parent attributes time s).state := by
  have hq := start_quiet name parent attributes time s
  rcases start_outlines name parent attributes time s with
    ⟨⟨-, cause, -, hresult⟩, hsame⟩ | ⟨hresult, o, ho, hadded⟩
  · have hnext : Period.next s (.start name parent attributes time) period = period := by
      cases period <;> simp [Period.next, hresult]
    rw [hnext]
    exact h.of_quiet hq hsame
  have hnew := h.newOutline ho
  refine ⟨h.favoured.of_eq hq.surroundings, ?_, ?_, ?_, ?_⟩
  · rw [hq.settings]
    exact h.recordsAll
  · rw [hadded, List.forall_mem_append, List.forall_mem_singleton]
    refine ⟨h.sampled, ?_⟩
    rcases hnew with ⟨-, rfl⟩ | ⟨number, -, -, hsampled, -⟩
    · intro hvalid
      cases hvalid
    · exact fun _ => hsampled
  · rw [hadded, hq.settings, List.forall_mem_append, List.forall_mem_singleton]
    refine ⟨h.held, ?_⟩
    rcases hnew with ⟨-, rfl⟩ | ⟨number, -, hlt, -, hholder⟩
    · simp
    · simp [hholder, hlt]
  · cases period with
    | none => exact hq.current.trans h.period
    | some p =>
      simp only [Period.next, hresult]
      obtain ⟨hopen, hclient, hrefusal, hnumber, hserves, hrunning⟩ := h.period
      obtain ⟨hactive, hmaker⟩ := h.maker hserves
      have hholder : o.holder = s.current := by
        rcases hnew with ⟨hnone, -⟩ | ⟨number, hsome, -, -, hholder⟩
        · exact absurd hnone hmaker
        · rw [hholder, ← hsome, hactive]
      refine ⟨hopen, hclient, hrefusal, hnumber, hq.serves hserves, ?_⟩
      rw [hadded, hq.current]
      intro number
      rw [List.mem_cons, hrunning]
      by_cases hlt : number < s.outlines.length
      · rw [List.getElem?_append_left hlt]
        have hne : number ≠ s.outlines.length := by omega
        simp [hne]
      · -- Beyond the spans so far there is the new one and no other.
        have hnone : s.outlines[number]? = none := List.getElem?_eq_none (by omega)
        rw [hnone, List.getElem?_append_right (by omega)]
        by_cases he : number = s.outlines.length
        · simp [he, hholder]
        · have hbeyond : number - s.outlines.length ≠ 0 := by omega
          simp [he, hbeyond]

theorem released_of_mem {outlines : List Outline} {number : Nat} {o : Outline}
    (h : o ∈ outlines.modify number Outline.released) :
    ∃ old ∈ outlines, o = old ∨ o = old.released := by
  obtain ⟨i, hi⟩ := List.mem_iff_getElem?.1 h
  rw [List.getElem?_modify] at hi
  obtain ⟨old, hold, rfl⟩ := Option.map_eq_some_iff.1 hi
  refine ⟨old, List.mem_of_getElem? hold, ?_⟩
  by_cases hn : number = i <;> simp [hn]

theorem finish_frame (number : Nat) (time : Option Int) (s : Session) :
    (finish number time s).state.surroundings = s.surroundings ∧
      (finish number time s).state.settings = s.settings ∧
      (finish number time s).state.current = s.current := by
  rcases finish_cases number time s with hq | ⟨t, provider, span, hq, hf⟩
  · exact ⟨hq.surroundings, hq.settings, hq.current⟩
  · rw [hf, settings_onProcessors]
    exact ⟨hq.surroundings, hq.settings, hq.current⟩

theorem finish_follows (h : Follows period s) (number : Nat) (time : Option Int) :
    Follows (Period.next s (.finish number time) period) (finish number time s).state := by
  have hout := finish_outlines number time s
  obtain ⟨hsurroundings, hsettings, hcurrent⟩ := finish_frame number time s
  refine ⟨h.favoured.of_eq hsurroundings, ?_, ?_, ?_, ?_⟩
  · rw [hsettings]
    exact h.recordsAll
  · rw [hout]
    intro o ho
    obtain ⟨old, hold, rfl | rfl⟩ := released_of_mem ho
    · exact h.sampled o hold
    · exact h.sampled old hold
  · rw [hout, hsettings]
    intro o ho
    obtain ⟨old, hold, rfl | rfl⟩ := released_of_mem ho
    · exact h.held o hold
    · simp [Outline.released]
  · cases period with
    | none => exact hcurrent.trans h.period
    | some p =>
      have hhosts : Hosts p s := h.period
      obtain ⟨hopen, hclient, hrefusal, hnumber, hserves, hrunning⟩ := hhosts
      refine ⟨hopen, hclient, hrefusal, hnumber, finish_serves hopen number time s hserves, ?_⟩
      rw [hout, hcurrent]
      intro other
      rw [List.mem_filter, hrunning, List.getElem?_modify]
      by_cases hn : number = other
      · have hfree : ∀ old : Outline, old.released.holder ≠ s.current := fun _ he =>
          Hosts.current h.period he.symm
        simp [hn, hfree]
      · simp [hn, Ne.symm hn]

/-- What is passed on to a provider that is not current goes nowhere. -/
theorem IsTidy.onEnd_sent (ht : s.IsTidy) {provider : Nat} (hc : s.current ≠ some provider)
    (span : Span) :
    (onProcessors provider (.each (Processor.onEnd span)) s).journal.sent = [] := by
  have hkept := Processor.each_kept (fun p => Processor.onEnd_kept p span) (s.processors provider)
  refine hkept.sent ?_
  rw [lifelines_processors]
  cases hl : s.lifelines[provider]? with
  | none => simp
  | some lines => exact ht provider lines hl hc

theorem finish_recorded (hs : s.IsSteady) (ht : s.IsTidy) (h : Follows period s) (number : Nat)
    (time : Option Int) :
    (finish number time s).journal.sent = Period.recorded s (.finish number time) period := by
  have hholder := endedSpan?_holder s number time
  cases hend : s.endedSpan? number time with
  | none =>
    rw [finish_of_none hend]
    cases period <;> simp [Period.recorded, hend]
  | some passed =>
    obtain ⟨provider, span⟩ := passed
    obtain ⟨t, ended, hq, -, -, hf⟩ := finish_of_some hend
    have htidy : t.IsTidy := (IsTidy.kept_iff (Kept.of_quiet hs hq)).2 ht
    have hcurrent : t.current = s.current := hq.current
    rw [hend, Option.map_some] at hholder
    obtain ⟨o, ho, hprovider⟩ := Option.bind_eq_some_iff.1 hholder.symm
    rw [hf]
    cases period with
    | none =>
      have hnone : s.current = none := h.period
      exact htidy.onEnd_sent (by simp [hcurrent, hnone]) span
    | some p =>
      have hhosts : Hosts p s := h.period
      have hmem : number ∈ p.running ↔ s.current = some provider := by
        rw [hhosts.running]
        constructor
        · rintro ⟨o', ho', hc⟩
          cases ho.symm.trans ho'
          rw [← hc, hprovider]
        · exact fun hc => ⟨o, ho, hprovider.trans hc.symm⟩
      simp only [Period.recorded, hend]
      -- A span of a period that is over is passed on to a provider that was shut down.
      by_cases hc : s.current = some provider
      · rw [if_pos (hmem.2 hc)]
        exact (hq.serves hhosts.serves).onEnd_sent hhosts.isOpen hhosts.refusal
          (hcurrent.trans hc) span
      · rw [if_neg (mt hmem.1 hc)]
        exact htidy.onEnd_sent (by rw [hcurrent]; exact hc) span

/-! ## Flushes and shutdowns -/

theorem flush_follows (h : Follows period s) :
    Follows period (flush s).state ∧ (flush s).journal.sent = [] := by
  cases period with
  | none =>
    have hnone : s.current = none := h.period
    unfold flush
    rw [Call.get_bind_apply, hnone]
    exact ⟨h, rfl⟩
  | some p =>
    have hhosts : Hosts p s := h.period
    obtain ⟨number, hcurrent, hfeeds⟩ := hhosts.serves
    have hstate : (flush s).state = (onProcessors number Processor.flushAll s).state := by
      unfold flush
      rw [Call.get_bind_apply, hcurrent]
      simp only
      rw [bind_pure_comp, Call.map_apply]
    refine ⟨?_, (flush_serves hhosts.serves).2⟩
    refine h.of_eq ?_ ?_ ?_ ?_ fun e hs => (flush_serves hs).1
    · rw [hstate]
      rfl
    · rw [hstate, settings_onProcessors]
    · rw [hstate]
      rfl
    · rw [hstate]
      rfl

theorem shutdown_follows (hs : s.IsSteady) (h : Follows period s) :
    Follows none (shutdown s).state ∧ (shutdown s).journal.sent = [] := by
  cases period with
  | none =>
    rw [shutdown_of_none h.period]
    exact ⟨h, rfl⟩
  | some p =>
    have hhosts : Hosts p s := h.period
    obtain ⟨-, -, -, hsent⟩ := shutdown_serves hhosts.isOpen hhosts.clientOpen hhosts.serves
    obtain ⟨number, hcurrent, -⟩ := hhosts.serves
    have he := Processor.each_shutdown_ended (hs.processors number)
    have hstate : (shutdown s).state =
        { (onProcessors number (.each Processor.shutdown) s).state with current := none } := by
      rw [shutdown_of_ok hcurrent he.result]
    refine ⟨⟨?_, ?_, ?_, ?_, ?_⟩, hsent⟩
    · rw [hstate]
      exact h.favoured.of_eq rfl
    · rw [hstate]
      intro settings hsettings
      refine h.recordsAll settings ?_
      rw [← settings_onProcessors number (.each Processor.shutdown)]
      exact hsettings
    · rw [hstate]
      exact h.sampled
    · rw [hstate]
      intro o ho k hk
      have := h.held o ho k hk
      rw [← settings_onProcessors number (.each Processor.shutdown)] at this
      exact this
    · rw [hstate]

/-! ## Every call -/

/-- Each call records what its period says, and leaves a session that follows the next one. -/
theorem follows_make (hs : s.IsSteady) (ht : s.IsTidy) (h : Follows period s)
    {call : SessionCall} (hc : call.IsPlain) :
    Follows (Period.next s call period) (call.make s).state ∧
      (call.make s).journal.sent = Period.recorded s call period := by
  cases call with
  | setup own c kind memories => exact setup_follows h hc
  | start name parent attributes time =>
    rw [SessionCall.make, Call.map_apply]
    refine ⟨start_follows h name parent attributes time, ?_⟩
    exact congrArg Journal.sent (start_quiet name parent attributes time s).journal
  | setAttribute number key value =>
    have hq := setAttribute_quiet number key value s
    refine ⟨?_, congrArg Journal.sent hq.journal⟩
    exact h.of_quiet hq (setAttribute_outlines number key value s)
  | setStatus number code description =>
    have hq := record_quiet number (·.setStatus code description) s
    refine ⟨?_, congrArg Journal.sent hq.journal⟩
    exact h.of_quiet hq (setStatus_outlines number code description s)
  | rename number name =>
    have hq := record_quiet number (·.rename name) s
    refine ⟨?_, congrArg Journal.sent hq.journal⟩
    exact h.of_quiet hq (rename_outlines number name s)
  | addNote number name attributes time =>
    have hq := addNote_quiet number name attributes time s
    refine ⟨?_, congrArg Journal.sent hq.journal⟩
    exact h.of_quiet hq (addNote_outlines number name attributes time s)
  | finish number time => exact ⟨finish_follows h number time, finish_recorded hs ht h number time⟩
  | flush =>
    rw [SessionCall.make, Call.map_apply]
    exact flush_follows h
  | shutdown => exact shutdown_follows hs h

theorem follows_run (hs : s.IsSteady) (ht : s.IsTidy) (h : Follows period s)
    {calls : List SessionCall} (hcalls : ∀ call ∈ calls, call.IsPlain)
    (hsetups : Call.Throughout SessionCall.make (fun t call => call.SetsUp t → t.current = none)
      calls s) :
    let last := Call.stateAfter SessionCall.make calls s
    (last.IsSteady ∧ last.IsTidy ∧ Follows (Period.after calls period s) last) ∧
      (Call.journalOf SessionCall.make calls s).sent = Period.routed calls period s := by
  induction calls generalizing s period with
  | nil => exact ⟨⟨hs, ht, h⟩, rfl⟩
  | cons call rest ih =>
    rw [List.forall_mem_cons] at hcalls
    obtain ⟨hset, hrest⟩ := hsetups
    obtain ⟨hnext, hsent⟩ := follows_make hs ht h hcalls.1
    have hsteady := SessionCall.make_steady hs hcalls.1.smooth
    obtain ⟨hlast, hrecorded⟩ :=
      ih hsteady (IsTidy.make hs ht hcalls.1.smooth hset) hnext hcalls.2 hrest
    refine ⟨hlast, ?_⟩
    rw [Call.journalOf_cons, Journal.sent_append, hsent, hrecorded]
    rfl

/-! ## Clients -/

/-- Clients are numbered as they are opened, so no two setups have the same one. -/
theorem exporters_numbers (hs : s.IsSteady) {calls : List SessionCall}
    (hcalls : ∀ call ∈ calls, call.IsSmooth) :
    (∀ e ∈ Period.exporters calls s, s.clients ≤ e.client.number) ∧
      ((Period.exporters calls s).map (·.client.number)).Nodup := by
  induction calls generalizing s with
  | nil => simp [Period.exporters]
  | cons call rest ih =>
    rw [List.forall_mem_cons] at hcalls
    obtain ⟨hless, hnodup⟩ := ih (SessionCall.make_steady hs hcalls.1) hcalls.2
    unfold Period.exporters
    cases he : call.exporter? s with
    | none =>
      have hclients : s.clients ≤ (call.make s).state.clients := by
        rcases SessionCall.make_cases hs hcalls.1 with ⟨-, ho⟩ | ⟨-, hk | ⟨number, -, hended⟩⟩
        · exact Nat.le_of_lt ho.clients
        · exact hk.clients
        · exact Nat.le_of_eq hended.clients
      exact ⟨fun e hmem => Nat.le_trans hclients (hless e hmem), hnodup⟩
    | some e =>
      have hnumber := SessionCall.exporter?_number he
      have hset : call.SetsUp s := (SessionCall.setsUp_iff call s).2 (by rw [he]; rfl)
      have hclients : s.clients < (call.make s).state.clients := by
        rcases SessionCall.make_cases hs hcalls.1 with ⟨-, ho⟩ | ⟨hno, -⟩
        · exact ho.clients
        · exact absurd hset hno
      simp only [Option.toList_some, List.singleton_append, List.map_cons, List.nodup_cons,
        List.forall_mem_cons, List.mem_map, not_exists, not_and]
      refine ⟨⟨Nat.le_of_eq hnumber.symm, fun other hmem => ?_⟩, fun other hmem heq => ?_, hnodup⟩
      · have := hless other hmem
        omega
      · have := hless other hmem
        omega

/-! ## A session from its start -/

theorem follows_start (hproviders : s.providers = []) (hcurrent : s.current = none)
    (hspans : s.spans = []) (hsdk : s.sdk.RecordsAll s.environment)
    (hbackend : s.backend.transmission.IsReliable) :
    s.IsSteady ∧ s.IsTidy ∧ Follows none s := by
  refine ⟨⟨by simp [hproviders], hbackend.2⟩, ?_, ⟨hsdk, hbackend.1⟩, ?_, ?_, ?_, hcurrent⟩
  · simp [IsTidy, lifelines, hproviders]
  · simp [settings, hproviders]
  · simp [outlines, hspans]
  · simp [outlines, hspans]

theorem Hosts.delivers {p : Period} (h : Hosts p s)
    (hcomplete : p.exporter.builder.target.isComplete = true) : p.exporter.delivers = true := by
  simp [Exporter.delivers, hcomplete, h.clientOpen]

/-- How a call fares in a session that follows a period. -/
structure IsRouted (period : Option Period) (s : Session) (call : SessionCall) : Prop where
  configured : period = none ↔ s.current = none
  sent : (call.make s).journal.sent = Period.recorded s call period
  /-- A running span ends at the client of the period, which takes it with all of its notes. -/
  whole : ∀ number time p, call = .finish number time → period = some p → number ∈ p.running →
    ∃ provider span, s.endedSpan? number time = some (provider, span) ∧
      (p.exporter.builder.target.isComplete = true → span.IsConvertible →
        ∃ events : List Event, events.map .ok = p.exporter.offers span ∧
          (call.make s).journal.sent = events.map (p.exporter.client.number, ·))
  /-- All that a setup can leave that fails is a client. -/
  failed : ∀ own c kind memories, call = .setup own c kind memories → ¬ call.SetsUp s →
    ∃ clients, (call.make s).state = { s with clients } ∧ (call.make s).journal.sent = []
  idle : call = .shutdown → period = none → call.make s = ⟨s, [], .ok ()⟩

theorem Follows.isRouted (hs : s.IsSteady) (ht : s.IsTidy) (h : Follows period s)
    {call : SessionCall} (hc : call.IsPlain) : IsRouted period s call := by
  have hsent := (follows_make hs ht h hc).2
  refine ⟨?_, hsent, ?_, ?_, ?_⟩
  · cases period with
    | none => simpa using h.period
    | some p => simpa using Hosts.current h.period
  · rintro number time p rfl rfl hrunning
    have hhosts : Hosts p s := h.period
    obtain ⟨provider, hprovider, -⟩ := hhosts.serves
    obtain ⟨o, ho, hholder⟩ := (hhosts.running number).1 hrunning
    rw [hprovider] at hholder
    obtain ⟨span, hspan⟩ := endedSpan?_of_held ho hholder time
    refine ⟨provider, span, hspan, fun hcomplete hconvertible => ?_⟩
    obtain ⟨events, hevents, hrecords⟩ := Exporter.records_whole (hhosts.delivers hcomplete)
      hhosts.refusal hhosts.isNumber hconvertible
    refine ⟨events, hevents, ?_⟩
    rw [hsent, ← hrecords]
    simp [Period.recorded, hrunning, hspan]
  · rintro own c kind memories rfl hset
    obtain ⟨clients, journal, hnothing, ⟨-, failure, hmake⟩ | ⟨e, settings, hsome, -, hmake⟩⟩ :=
      SessionCall.make_setup_cases own c kind memories s
    · refine ⟨clients, ?_, ?_⟩ <;> rw [hmake]
      exact hnothing
    · exact absurd ((SessionCall.setsUp_iff _ s).2 (by simp [SessionCall.exporter?, hsome])) hset
  · rintro rfl rfl
    exact shutdown_of_none h.period

/-- A session that starts with nothing, where nothing is set up over a current provider and the SDK
records every span, records what its periods say, each at the client of its setup, and no two of
these clients are the same. -/
theorem journalOf_sent_routed (hproviders : s.providers = []) (hcurrent : s.current = none)
    (hspans : s.spans = []) (hsdk : s.sdk.RecordsAll s.environment)
    (hbackend : s.backend.transmission.IsReliable) (calls : List SessionCall) (hcalls : ∀ call ∈ calls, call.IsPlain)
    (hsetups : Call.Throughout SessionCall.make (fun t call => call.SetsUp t → t.current = none)
      calls s) :
    (Call.journalOf SessionCall.make calls s).sent = Period.routed calls none s ∧
      ((Period.exporters calls s).map (·.client.number)).Nodup ∧
      ∀ before call rest, calls = before ++ call :: rest →
        IsRouted (Period.after before none s) (Call.stateAfter SessionCall.make before s) call := by
  obtain ⟨hs, ht, h⟩ := follows_start hproviders hcurrent hspans hsdk hbackend
  have hsmooth : ∀ call ∈ calls, call.IsSmooth := fun call hmem => (hcalls call hmem).smooth
  refine ⟨(follows_run hs ht h hcalls hsetups).2, (exporters_numbers hs hsmooth).2, ?_⟩
  rintro before call rest rfl
  rw [Call.throughout_append] at hsetups
  rw [List.forall_mem_append, List.forall_mem_cons] at hcalls
  obtain ⟨⟨hsteady, htidy, hfollows⟩, -⟩ := follows_run hs ht h hcalls.1 hsetups.1
  exact hfollows.isRouted hsteady htidy hcalls.2.1

/-- A setup for one dataset, with a span and what follows it. -/
def spanUnder (dataset : String) (number : Nat) : List SessionCall :=
  [.setup none { writekey := .text "k", dataset := .text dataset } .simple [],
    .start (.text "work") none .empty none, .addNote number "note" .empty none,
    .finish number none, .shutdown]

/-- Two periods, with a span between them that goes nowhere and a setup that is refused. -/
def twoPeriods : List SessionCall :=
  spanUnder "first" 0 ++ [.start (.text "lost") none .empty none, .finish 1 none] ++
    .setup none { writekey := .text "k", dataset := .text "" } .simple [] :: spanUnder "second" 2

theorem journalOf_twoPeriods :
    (blankSession.providers = [] ∧ blankSession.current = none ∧ blankSession.spans = [] ∧
      blankSession.sdk.RecordsAll blankSession.environment ∧
      blankSession.backend.transmission.IsReliable ∧ ∀ call ∈ twoPeriods, call.IsPlain) ∧
    (Call.journalOf SessionCall.make twoPeriods blankSession).sent =
      Period.routed twoPeriods none blankSession ∧
    ((Call.journalOf SessionCall.make twoPeriods blankSession).sent.map Prod.fst) =
      [0, 0, 1, 1] := by
  have hone : ∀ x, Value.float .one = .float x → x.isProperFraction = false := by
    rintro x ⟨⟩
    decide +kernel
  have hplain : ∀ call ∈ twoPeriods, call.IsPlain := by
    simp [twoPeriods, spanUnder, SessionCall.IsPlain, Configuration.KeepsAll, hone]
  have hsdk : blankSession.sdk.RecordsAll blankSession.environment :=
    (Sdk.standard_isAmple _).toRecordsAll
  refine ⟨⟨rfl, rfl, rfl, hsdk, ⟨fun _ _ => rfl, rfl⟩, hplain⟩, ?_, by decide +kernel⟩
  exact (journalOf_sent_routed rfl rfl rfl hsdk ⟨fun _ _ => rfl, rfl⟩ twoPeriods hplain
    (by decide +kernel)).1

/-- A setup with a dataset of blanks, and a span. -/
def blankDataset : List SessionCall :=
  [.setup none { writekey := .text "k", dataset := .text "  ", sampleFraction := .int 1 }
      .simple [],
    .start (.text "lost") none .empty none]

def lostSpan : Span :=
  ⟨.text "lost", some ⟨1, 1⟩, none, some 0, some 1, some ⟨.status .unset, none⟩, .empty, []⟩

/-- A dataset of blanks is admitted, and the client keeps an empty one under a newer key. So the
span of the period is lost, although there is a key and the span can be converted. -/
theorem blankDataset_loses_span :
    (∀ call ∈ blankDataset, call.IsPlain) ∧
      Call.Throughout SessionCall.make (fun t call => call.SetsUp t → t.current = none)
        blankDataset blankSession ∧
      (∃ p, Period.after blankDataset none blankSession = some p ∧ 0 ∈ p.running ∧
        p.exporter.client.target.writekey = .text "k") ∧
      (Call.stateAfter SessionCall.make blankDataset blankSession).endedSpan? 0 none =
        some (0, lostSpan) ∧
      lostSpan.IsConvertible ∧
      (Call.journalOf SessionCall.make (blankDataset ++ [.finish 0 none]) blankSession).sent =
        [] := by
  refine ⟨?_, by decide +kernel, ⟨_, rfl, by decide, rfl⟩, rfl, ⟨?_, ?_⟩,
    List.isEmpty_iff.1 (by decide +kernel)⟩
  · simp [blankDataset, SessionCall.IsPlain, Configuration.KeepsAll]
  · rw [← Exporter.convertSpan_isError (e := Exporter.refusingThird) rfl]
    rintro ⟨failure, h⟩
    cases h
  · simp [lostSpan]

end Session

end SpanExport
