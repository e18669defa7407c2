import SpanExport.Proofs.History
import SpanExport.Proofs.Tracing.Lifelines
import SpanExport.Proofs.Tracing.Quiet
import SpanExport.Proofs.Tracing.Setup

/-!
# Calls on a session

A call on a session does one of three things to the lifelines of its providers: nothing, a new
one for a setup that succeeds, or an end to those of the current provider.
-/

namespace SpanExport

def Session.blankSession : Session where
  clock := ⟨fun k => k, 0⟩
  traceIds := ⟨fun k => k + 1, 0⟩
  spanIds := ⟨fun k => k + 1, 0⟩
  environment := fun _ => none

/-! ## The calls -/

structure OwnClient where
  target : Target
  fields : Fields
  transmission : Transmission

inductive SessionCall where
  | setup (own : Option OwnClient) (c : Configuration) (kind : ProcessorKind)
      (memories : List Nat)
  | start (name : Value) (parent : Option Nat) (attributes : Fields) (time : Option Int)
  | setAttribute (number : Nat) (key : String) (value : Value)
  | setStatus (number : Nat) (code : StatusCode) (description : Option String)
  | rename (number : Nat) (name : Value)
  | addNote (number : Nat) (name : String) (attributes : Fields) (time : Option Int)
  | finish (number : Nat) (time : Option Int)
  | flush
  | shutdown

namespace SessionCall

/-- Every caller's client is a new one, so no two setups share one. -/
def openOwn : Option OwnClient → Call Session (Option Client)
  | none => pure none
  | some own => some <$> Session.connect own.target own.fields own.transmission

def make : SessionCall → Call Session Unit
  | .setup own c kind memories => do
    let client ← openOwn own
    (fun _ => ()) <$> Session.setup c kind client memories
  | .start name parent attributes time =>
    (fun _ => ()) <$> Session.start name parent attributes time
  | .setAttribute number key value => Session.setAttribute number key value
  | .setStatus number code description => Session.setStatus number code description
  | .rename number name => Session.rename number name
  | .addNote number name attributes time => Session.addNote number name attributes time
  | .finish number time => Session.finish number time
  | .flush => (fun _ => ()) <$> Session.flush
  | .shutdown => Session.shutdown

/-- No client that the call brings refuses to close. -/
def IsSmooth : SessionCall → Prop
  | .setup own .. => ∀ o ∈ own, o.transmission.closeError = none
  | _ => True

def SetsUp (s : Session) : SessionCall → Prop
  | .setup own c kind memories => ((setup own c kind memories).make s).result = .ok ()
  | _ => False

end SessionCall

theorem Journal.closings_openings {journal : Journal} {backend : Backend} {number : Nat}
    {client : Option Client} (h : journal.clientCalls = backend.openings number client) :
    journal.closings = [] := by
  rw [closings, h]
  cases client with
  | some own => rfl
  | none =>
    rw [Backend.openings]
    cases backend.createError.isSome <;> rfl

/-! ## What calls do -/

namespace Session

def lifelines (s : Session) : List (List Lifeline) :=
  s.providers.map fun p => Processor.lifelines p.processors

def IsSteady (s : Session) : Prop :=
  (∀ provider ∈ s.providers, ∀ p ∈ provider.processors, p.IsSteady) ∧
    s.backend.transmission.closeError = none

def IsOver (s : Session) : Prop := ∀ l ∈ s.lifelines.flatten, l.isClosed = true

/-- What a call leaves that neither opens nor ends a provider. -/
structure Kept {α : Type} (s : Session) (o : Outcome Session α) : Prop where
  steady : o.state.IsSteady
  lifelines : o.state.lifelines = s.lifelines
  current : o.state.current = s.current
  clients : s.clients ≤ o.state.clients
  closings : o.journal.closings = []
  sent : s.IsOver → o.journal.sent = []

structure Opened {α : Type} (client : Nat) (s : Session) (o : Outcome Session α) : Prop where
  steady : o.state.IsSteady
  lifelines : o.state.lifelines = s.lifelines ++ [[⟨client, none, false⟩]]
  current : o.state.current = some s.lifelines.length
  clients : s.clients < o.state.clients
  closings : o.journal.closings = []

/-- What a setup leaves, whether or not it succeeds. -/
def Attempted {α : Type} (client : Nat) (s : Session) (o : Outcome Session α) : Prop :=
  (∃ failure, o.result = .error failure) ∧ Kept s o ∨
    (∃ a, o.result = .ok a) ∧ Opened client s o

structure Ended (number : Nat) (s : Session) (o : Outcome Session Unit) : Prop where
  steady : o.state.IsSteady
  lifelines : o.state.lifelines = s.lifelines.modify number (List.map Lifeline.closed)
  current : o.state.current = none
  clients : s.clients = o.state.clients
  closings : o.journal.closings =
    (((s.lifelines[number]?).getD []).filter (!·.isClosed)).map (·.client)

namespace Kept

variable {α β : Type} {s : Session}

theorem of_eq {o : Outcome Session α} (hs : s.IsSteady)
    (providers : o.state.providers = s.providers) (backend : o.state.backend = s.backend)
    (current : o.state.current = s.current) (clients : s.clients ≤ o.state.clients)
    (closings : o.journal.closings = []) (sent : o.journal.sent = []) : Kept s o := by
  refine ⟨?_, ?_, current, clients, closings, fun _ => sent⟩
  · unfold IsSteady
    rw [providers, backend]
    exact hs
  · unfold Session.lifelines
    rw [providers]

theorem ending {o : Outcome Session α} (h : Kept s o) (result : Except Failure β) :
    Kept s ⟨o.state, o.journal, result⟩ :=
  ⟨h.steady, h.lifelines, h.current, h.clients, h.closings, h.sent⟩

theorem of_quiet {o : Outcome Session α} (hs : s.IsSteady) (h : Quiet s o) : Kept s o :=
  of_eq hs h.providers h.backend h.current (Nat.le_of_eq h.clients.symm)
    (by rw [h.journal]; rfl) (by rw [h.journal]; rfl)

theorem after {t : Session} {journal : Journal} {result : Except Failure α}
    {o : Outcome Session β} (h : Kept s ⟨t, journal, result⟩) (ho : Kept t o) :
    Kept s (o.after journal) := by
  refine ⟨ho.steady, ho.lifelines.trans h.lifelines, ho.current.trans h.current,
    Nat.le_trans h.clients ho.clients, ?_, fun hs => ?_⟩
  · rw [Outcome.after_journal, Journal.closings_append, h.closings, ho.closings]
    rfl
  · have ht : t.IsOver := by
      unfold IsOver
      rw [h.lifelines]
      exact hs
    rw [Outcome.after_journal, Journal.sent_append, h.sent hs, ho.sent ht]
    rfl

theorem bind {x : Call Session α} {f : α → Call Session β} (hx : Kept s (x s))
    (hf : ∀ a t, t.IsSteady → Kept t (f a t)) : Kept s ((x >>= f) s) := by
  rcases Call.bind_cases x f s with ⟨t, journal, failure, ho, hb⟩ | ⟨t, journal, a, ho, hb⟩
  · rw [ho] at hx
    rw [hb]
    exact hx.ending _
  · rw [ho] at hx
    rw [hb]
    exact hx.after (hf a t hx.steady)

theorem map (f : α → β) {x : Call Session α} (h : Kept s (x s)) : Kept s ((f <$> x) s) := by
  rw [Call.map_apply]
  exact ending h _

end Kept

namespace Attempted

variable {α β : Type} {s : Session} {client : Nat}

theorem after {t : Session} {journal : Journal} {result : Except Failure α}
    {o : Outcome Session β} (h : Kept s ⟨t, journal, result⟩) (ho : Attempted client t o) :
    Attempted client s (o.after journal) := by
  rcases ho with ⟨hf, hk⟩ | ⟨ha, hn⟩
  · exact .inl ⟨hf, h.after hk⟩
  · refine .inr ⟨ha, hn.steady, ?_, ?_, Nat.lt_of_le_of_lt h.clients hn.clients, ?_⟩
    · rw [← h.lifelines]
      exact hn.lifelines
    · rw [← h.lifelines]
      exact hn.current
    · rw [Outcome.after_journal, Journal.closings_append, h.closings, hn.closings]
      rfl

theorem map (f : α → β) {x : Call Session α} (h : Attempted client s (x s)) :
    Attempted client s ((f <$> x) s) := by
  rw [Call.map_apply]
  rcases h with ⟨⟨failure, hf⟩, hk⟩ | ⟨⟨a, ha⟩, hn⟩
  · refine .inl ⟨⟨failure, ?_⟩, hk.ending _⟩
    rw [hf]
    rfl
  · refine .inr ⟨⟨f a, ?_⟩, hn.steady, hn.lifelines, hn.current, hn.clients, hn.closings⟩
    rw [ha]
    rfl

end Attempted

/-! ## Providers -/

/-- The processors that a call on the provider with this number is made on. -/
def processors (s : Session) (number : Nat) : List Processor :=
  ((s.provider? number).map Provider.processors).getD []

section

variable {s : Session}

theorem providers_onProcessors {α : Type} (number : Nat) (call : Call (List Processor) α) :
    (onProcessors number call s).state.providers =
      s.providers.modify number fun p =>
        { p with processors := (call (s.processors number)).state } := rfl

theorem lifelines_onProcessors {α : Type} (number : Nat) (call : Call (List Processor) α) :
    (onProcessors number call s).state.lifelines =
      s.lifelines.modify number fun _ =>
        Processor.lifelines (call (s.processors number)).state := by
  unfold lifelines
  rw [providers_onProcessors]
  apply List.ext_getElem?
  intro i
  rw [List.getElem?_map, List.getElem?_modify, List.getElem?_modify, List.getElem?_map]
  rcases s.providers[i]? with _ | provider
  · rfl
  · by_cases hi : number = i <;> simp [hi]

theorem IsSteady.processors (hs : s.IsSteady) (number : Nat) :
    ∀ p ∈ s.processors number, p.IsSteady := by
  intro p h
  unfold Session.processors provider? at h
  cases hp : s.providers[number]? with
  | none => simp [hp] at h
  | some provider =>
    rw [hp] at h
    exact hs.1 provider (List.mem_of_getElem? hp) p h

theorem lifelines_processors (number : Nat) :
    Processor.lifelines (s.processors number) = (s.lifelines[number]?).getD [] := by
  unfold processors provider? lifelines
  rw [List.getElem?_map]
  cases s.providers[number]? <;> rfl

theorem steady_onProcessors {α : Type} (hs : s.IsSteady) (number : Nat)
    {call : Call (List Processor) α} (h : ∀ p ∈ (call (s.processors number)).state, p.IsSteady) :
    (onProcessors number call s).state.IsSteady := by
  refine ⟨fun provider hp => ?_, hs.2⟩
  obtain ⟨i, hi⟩ := List.mem_iff_getElem?.1 hp
  rw [providers_onProcessors, List.getElem?_modify] at hi
  obtain ⟨old, hold, rfl⟩ := Option.map_eq_some_iff.1 hi
  by_cases hn : number = i
  · simpa [hn] using h
  · simpa [hn] using hs.1 old (List.mem_of_getElem? hold)

theorem onProcessors_kept {α : Type} (hs : s.IsSteady) (number : Nat)
    {call : Call (List Processor) α} (h : ∀ ps, Processor.AllKept ps (call ps)) :
    Kept s (onProcessors number call s) := by
  have hk := h (s.processors number)
  have hlines := lifelines_processors (s := s) number
  refine ⟨?_, ?_, rfl, Nat.le_refl _, Journal.closings_eq_nil hk.clientCalls, fun ho => ?_⟩
  · exact steady_onProcessors hs number (hk.steady (hs.processors number))
  · rw [lifelines_onProcessors, hk.lifelines, hlines]
    exact (modify_getD id s.lifelines number []).trans (List.modify_id number s.lifelines)
  · refine hk.sent fun l hl => ho l ?_
    rw [hlines] at hl
    cases hg : s.lifelines[number]? with
    | none => simp [hg] at hl
    | some lines =>
      rw [hg] at hl
      exact List.mem_flatten.2 ⟨lines, List.mem_of_getElem? hg, hl⟩

theorem finish_kept (hs : s.IsSteady) (number : Nat) (time : Option Int) :
    Kept s (finish number time s) := by
  rcases finish_cases number time s with hq | ⟨t, provider, span, hq, he⟩
  · exact Kept.of_quiet hs hq
  · have ht := Kept.of_quiet hs hq
    rw [he, ← Outcome.after_nil (onProcessors provider (.each (Processor.onEnd span)) t)]
    exact ht.after (onProcessors_kept ht.steady provider
      (Processor.each_kept fun p => Processor.onEnd_kept p span))

theorem flush_kept (hs : s.IsSteady) : Kept s (flush s) := by
  unfold flush
  rw [Call.get_bind_apply]
  rcases s.current with _ | number
  · exact Kept.of_quiet hs (pure_quiet _ s)
  · exact Kept.bind (onProcessors_kept hs number Processor.flushAll_kept) fun _ t ht =>
      Kept.of_quiet ht (pure_quiet _ t)

/-! ## Setting up and shutting down -/

theorem connect_makes (target : Target) (fields : Fields) (transmission : Transmission)
    (s : Session) :
    Backend.Makes [] [(s.clients, .opened)]
      (Backend.newClient s.clients target fields transmission)
      { s with clients := s.clients + 1 } (connect target fields transmission s) := by
  unfold connect
  rw [Call.get_bind_apply, Call.modify_bind_apply]
  exact Backend.connect_makes ..

theorem connect_kept (hs : s.IsSteady) (target : Target) (fields : Fields)
    (transmission : Transmission) : Kept s (connect target fields transmission s) := by
  have hm := connect_makes target fields transmission s
  refine Kept.of_eq hs ?_ ?_ ?_ ?_ ?_ hm.sent
  · rw [hm.state]
  · rw [hm.state]
  · rw [hm.state]
  · rw [hm.state]
    exact Nat.le_succ _
  · rw [Journal.closings, hm.clientCalls]
    rfl

theorem install_steady (hs : s.IsSteady) {p : Provider} (hp : ∀ q ∈ p.processors, q.IsSteady) :
    (install p s).state.IsSteady := by
  refine ⟨fun provider hmem => ?_, hs.2⟩
  rcases List.mem_append.1 hmem with hmem | hmem
  · exact hs.1 provider hmem
  · rw [List.mem_singleton.1 hmem]
    exact hp

theorem setup_processors (kind : ProcessorKind) {e : Exporter} {client : Nat}
    (he : e.lifeline = ⟨client, none, false⟩) (memories : List Nat) :
    (∀ p ∈ ({ kind, sink := .exporter e } : Processor) ::
        memories.map fun n => { kind, sink := .memory n [] false }, p.IsSteady) ∧
      Processor.lifelines (({ kind, sink := .exporter e } : Processor) ::
        memories.map fun n => { kind, sink := .memory n [] false }) = [⟨client, none, false⟩] := by
  refine ⟨?_, ?_⟩
  · rw [List.forall_mem_cons]
    refine ⟨fun l hl => ?_, fun p hp l hl => ?_⟩
    · cases hl
      rw [he]
      exact ⟨rfl, rfl⟩
    · obtain ⟨n, -, rfl⟩ := List.mem_map.1 hp
      cases hl
  · rw [Processor.lifelines_cons, Processor.lifelines_memories, Processor.lifeline?,
      Sink.lifeline?, he]
    rfl

theorem setup_attempted (hs : s.IsSteady) (c : Configuration) (kind : ProcessorKind)
    {client : Option Client} (hclient : ∀ own ∈ client, own.transmission.closeError = none)
    (memories : List Nat) :
    Attempted ((client.map Client.number).getD s.clients) s (setup c kind client memories s) := by
  rcases setup_cases c kind client memories s with ⟨cause, -, hsetup⟩ | ⟨settings, -, journal, -,
    hcalls, hsent, ⟨failure, -, hsetup⟩ | ⟨made, hmade, hsetup⟩⟩
  · rw [hsetup]
    exact .inl ⟨⟨_, rfl⟩, Kept.of_quiet hs (ofExcept_quiet _ s)⟩
  · rw [hsetup]
    exact .inl ⟨⟨_, rfl⟩,
      Kept.of_eq hs rfl rfl rfl (Nat.le_succ _) (Journal.closings_openings hcalls) hsent⟩
  · have hline : (Exporter.make made c.sampleFraction c.serviceName).lifeline =
        ⟨(client.map Client.number).getD s.clients, none, false⟩ := by
      rcases Backend.client_eq_ok hmade with rfl | ⟨rfl, -, hnumber, htransmission, -⟩
      · rw [Exporter.lifeline, Exporter.make, hclient made rfl]
        rfl
      · rw [Exporter.lifeline, Exporter.make, hnumber, htransmission, hs.2]
        rfl
    obtain ⟨hsteady, hlines⟩ := setup_processors kind hline memories
    rw [hsetup]
    refine .inr ⟨⟨_, rfl⟩, install_steady (s := { s with clients := s.clients + 1 }) hs hsteady,
      ?_, ?_, Nat.lt_succ_self _, Journal.closings_openings hcalls⟩
    · refine List.map_append.trans ?_
      rw [List.map_singleton, hlines]
      rfl
    · rw [lifelines, List.length_map]
      rfl

theorem shutdown_of_none (h : s.current = none) : shutdown s = ⟨s, [], .ok ()⟩ := by
  unfold shutdown
  rw [Call.get_bind_apply, h]
  rfl

theorem shutdown_of_ok {number : Nat} (hc : s.current = some number)
    (h : (Call.each Processor.shutdown (s.processors number)).result = .ok ()) :
    let closing := onProcessors number (.each Processor.shutdown) s
    shutdown s = ⟨{ closing.state with current := none },
      .logged .info "Shutting down tracing..." ::
        (closing.journal ++ [.logged .info "Tracing shutdown complete"]), .ok ()⟩ := by
  intro closing
  have hx : onProcessors number (.each Processor.shutdown) s =
      ⟨closing.state, closing.journal, .ok ()⟩ := by
    rw [← h]
    rfl
  unfold shutdown
  rw [Call.get_bind_apply, hc]
  simp only
  rw [Call.log_bind_apply, Call.bind_of_ok _ hx, Call.modify_bind_apply]
  rfl

theorem shutdown_of_error {number : Nat} {failure : Failure} (hc : s.current = some number)
    (h : (Call.each Processor.shutdown (s.processors number)).result = .error failure) :
    let closing := onProcessors number (.each Processor.shutdown) s
    shutdown s = ⟨closing.state, .logged .info "Shutting down tracing..." :: closing.journal,
      .error failure⟩ := by
  intro closing
  have hx : onProcessors number (.each Processor.shutdown) s =
      ⟨closing.state, closing.journal, .error failure⟩ := by
    rw [← h]
    rfl
  unfold shutdown
  rw [Call.get_bind_apply, hc]
  simp only
  rw [Call.log_bind_apply, Call.bind_of_error _ hx]
  rfl

theorem shutdown_current (h : (shutdown s).result = .ok ()) : (shutdown s).state.current = none := by
  cases hc : s.current with
  | none => rw [shutdown_of_none hc, hc]
  | some number =>
    cases hclosing : (Call.each Processor.shutdown (s.processors number)).result with
    | ok u => rw [shutdown_of_ok hc hclosing]
    | error failure =>
      rw [shutdown_of_error hc hclosing] at h
      cases h

theorem shutdown_cases (hs : s.IsSteady) :
    (shutdown s).result = .ok () ∧
      ((s.current = none ∧ Kept s (shutdown s)) ∨
        ∃ number, s.current = some number ∧ Ended number s (shutdown s)) := by
  rcases hc : s.current with _ | number
  · unfold shutdown
    rw [Call.get_bind_apply, hc]
    exact ⟨rfl, .inl ⟨rfl, Kept.of_quiet hs (pure_quiet _ s)⟩⟩
  · have he := Processor.each_shutdown_ended (hs.processors number)
    have hsteady := steady_onProcessors hs number he.steady
    have hlines := lifelines_onProcessors (s := s) number (.each Processor.shutdown)
    have hclosings := he.closings
    rw [he.lifelines, lifelines_processors] at hlines
    rw [lifelines_processors] at hclosings
    rw [shutdown_of_ok hc he.result]
    refine ⟨rfl, .inr ⟨number, rfl, hsteady, ?_, rfl, rfl, ?_⟩⟩
    · exact hlines.trans (modify_getD (List.map Lifeline.closed) s.lifelines number [])
    · refine Eq.trans ?_ hclosings
      rw [← List.singleton_append, Journal.closings_append, Journal.closings_append]
      exact List.append_nil _

end

end Session

/-! ## Every call -/

namespace SessionCall

variable {s : Session}

theorem openOwn_kept (hs : s.IsSteady) (own : Option OwnClient) :
    Session.Kept s (openOwn own s) := by
  rcases own with _ | own
  · exact Session.Kept.of_quiet hs (Session.pure_quiet none s)
  · exact Session.Kept.map some (Session.connect_kept hs own.target own.fields own.transmission)

theorem openOwn_client {own : Option OwnClient} (hown : ∀ o ∈ own, o.transmission.closeError = none)
    {client : Option Client} (h : (openOwn own s).result = .ok client) :
    (∀ c ∈ client, c.transmission.closeError = none) ∧
      (client.map Client.number).getD (openOwn own s).state.clients = s.clients := by
  rcases own with _ | own
  · cases h
    exact ⟨fun _ hc => (by cases hc), rfl⟩
  · rw [openOwn, Call.map_apply] at h
    cases hx : (Session.connect own.target own.fields own.transmission s).result with
    | error failure =>
      rw [hx] at h
      cases h
    | ok c =>
      rw [hx] at h
      cases h
      have hnew := (Session.connect_makes own.target own.fields own.transmission s).result
      rw [hx] at hnew
      obtain ⟨hnumber, htransmission, -⟩ := Backend.newClient_eq_ok hnew.symm
      refine ⟨fun d hd => ?_, hnumber⟩
      cases hd
      rw [htransmission]
      exact hown own rfl

theorem setup_attempted (hs : s.IsSteady) {own : Option OwnClient}
    (hown : ∀ o ∈ own, o.transmission.closeError = none) (c : Configuration) (kind : ProcessorKind)
    (memories : List Nat) :
    Session.Attempted s.clients s ((setup own c kind memories).make s) := by
  have hk := openOwn_kept hs own
  rw [make]
  rcases Call.bind_cases (openOwn own)
    (fun client => (fun _ => ()) <$> Session.setup c kind client memories) s with
    ⟨t, journal, failure, ho, hb⟩ | ⟨t, journal, client, ho, hb⟩
  · rw [ho] at hk
    rw [hb]
    exact .inl ⟨⟨failure, rfl⟩, hk.ending _⟩
  · obtain ⟨hsmooth, hnumber⟩ := openOwn_client (s := s) hown (by rw [ho])
    rw [ho] at hk hnumber
    have hset := Session.setup_attempted hk.steady c kind hsmooth memories
    rw [hnumber] at hset
    rw [hb]
    exact Session.Attempted.after hk (hset.map _)

/-- A call opens a provider if it is a setup that succeeds, and otherwise ends one or none. -/
theorem make_cases (hs : s.IsSteady) {call : SessionCall} (hc : call.IsSmooth) :
    call.SetsUp s ∧ Session.Opened s.clients s (call.make s) ∨
      ¬ call.SetsUp s ∧ (Session.Kept s (call.make s) ∨
        ∃ number, s.current = some number ∧ Session.Ended number s (call.make s)) := by
  cases call with
  | setup own c kind memories =>
    rcases setup_attempted hs hc c kind memories with ⟨⟨failure, hf⟩, hk⟩ | ⟨⟨_, ha⟩, ho⟩
    · refine .inr ⟨fun h => ?_, .inl hk⟩
      unfold SetsUp at h
      rw [h] at hf
      cases hf
    · exact .inl ⟨ha, ho⟩
  | start name parent attributes time =>
    exact .inr ⟨id, .inl (Session.Kept.map _
      (Session.Kept.of_quiet hs (Session.start_quiet name parent attributes time s)))⟩
  | setAttribute number key value =>
    exact .inr ⟨id, .inl (Session.Kept.of_quiet hs (Session.setAttribute_quiet number key value s))⟩
  | setStatus number code description =>
    exact .inr ⟨id, .inl
      (Session.Kept.of_quiet hs (Session.record_quiet number (·.setStatus code description) s))⟩
  | rename number name =>
    exact .inr ⟨id, .inl
      (Session.Kept.of_quiet hs (Session.record_quiet number (·.rename name) s))⟩
  | addNote number name attributes time =>
    exact .inr ⟨id, .inl
      (Session.Kept.of_quiet hs (Session.addNote_quiet number name attributes time s))⟩
  | finish number time => exact .inr ⟨id, .inl (Session.finish_kept hs number time)⟩
  | flush => exact .inr ⟨id, .inl (Session.Kept.map _ (Session.flush_kept hs))⟩
  | shutdown =>
    rcases (Session.shutdown_cases hs).2 with ⟨-, hk⟩ | ⟨number, hcurrent, he⟩
    · exact .inr ⟨id, .inl hk⟩
    · exact .inr ⟨id, .inr ⟨number, hcurrent, he⟩⟩

theorem make_steady (hs : s.IsSteady) {call : SessionCall} (hc : call.IsSmooth) :
    (call.make s).state.IsSteady := by
  rcases make_cases hs hc with ⟨-, ho⟩ | ⟨-, hk | ⟨number, -, he⟩⟩
  · exact ho.steady
  · exact hk.steady
  · exact he.steady

theorem steady_run (hs : s.IsSteady) {calls : List SessionCall}
    (hcalls : ∀ call ∈ calls, call.IsSmooth) : (Call.stateAfter make calls s).IsSteady :=
  Call.stateAfter_preserves (I := Session.IsSteady) make
    (fun call hmem _ ht => make_steady ht (hcalls call hmem)) hs

end SessionCall

/-! ## The current provider -/

namespace Session

def IsNumbered (s : Session) : Prop := ∀ number, s.current = some number → number < s.providers.length

variable {s : Session}

theorem IsNumbered.of_eq {t : Session} (hs : s.IsNumbered) (hcurrent : t.current = s.current)
    (hproviders : t.providers.length = s.providers.length) : t.IsNumbered := by
  intro number hn
  rw [hproviders]
  rw [hcurrent] at hn
  exact hs number hn

theorem IsNumbered.of_none (h : s.current = none) : s.IsNumbered := by
  intro number hn
  rw [h] at hn
  cases hn

theorem Quiet.numbered {α : Type} {o : Outcome Session α} (h : Quiet s o) (hs : s.IsNumbered) :
    o.state.IsNumbered :=
  hs.of_eq h.current (by rw [h.providers])

theorem onProcessors_numbered {α : Type} (number : Nat) (call : Call (List Processor) α) :
    Call.Preserves IsNumbered (onProcessors number call) := by
  intro s hs
  refine hs.of_eq rfl ?_
  rw [providers_onProcessors, List.length_modify]

theorem setup_numbered (c : Configuration) (kind : ProcessorKind) (client : Option Client)
    (memories : List Nat) : Call.Preserves IsNumbered (setup c kind client memories) := by
  intro s hs
  rcases setup_cases c kind client memories s with ⟨cause, -, hsetup⟩ | ⟨settings, -, journal, -,
    -, -, ⟨failure, -, hsetup⟩ | ⟨made, -, hsetup⟩⟩
  · rw [hsetup]
    exact hs
  · rw [hsetup]
    exact hs.of_eq rfl rfl
  · rw [hsetup]
    intro number hn
    cases hn
    change s.providers.length < (s.providers ++ [_]).length
    rw [List.length_append]
    exact Nat.lt_succ_self _

theorem finish_numbered (number : Nat) (time : Option Int) :
    Call.Preserves IsNumbered (finish number time) := by
  intro s hs
  rcases finish_cases number time s with hq | ⟨t, provider, span, hq, hf⟩
  · exact hq.numbered hs
  · rw [hf]
    exact onProcessors_numbered provider _ t (hq.numbered hs)

theorem flush_numbered : Call.Preserves IsNumbered flush := by
  intro s hs
  unfold flush
  rw [Call.get_bind_apply]
  rcases s.current with _ | number
  · exact hs
  · exact (onProcessors_numbered number Processor.flushAll).bind
      (fun _ => Call.preserves_pure _) s hs

theorem shutdown_numbered : Call.Preserves IsNumbered shutdown := by
  intro s hs
  cases hc : s.current with
  | none =>
    unfold shutdown
    rw [Call.get_bind_apply, hc]
    exact hs
  | some number =>
    cases h : (Call.each Processor.shutdown (s.processors number)).result with
    | ok u =>
      rw [shutdown_of_ok hc h]
      exact IsNumbered.of_none rfl
    | error failure =>
      rw [shutdown_of_error hc h]
      exact onProcessors_numbered number _ s hs

end Session

namespace SessionCall

theorem make_numbered (call : SessionCall) : Call.Preserves Session.IsNumbered call.make := by
  intro s hs
  cases call with
  | setup own c kind memories =>
    have hsetup : ∀ client, Call.Preserves Session.IsNumbered
        ((fun _ => ()) <$> Session.setup c kind client memories : Call Session Unit) :=
      fun client => (Session.setup_numbered c kind client memories).map _
    have hown : Call.Preserves Session.IsNumbered (openOwn own) := by
      intro t ht
      rcases own with _ | own
      · exact ht
      · rw [openOwn, Call.map_apply]
        refine ht.of_eq ?_ ?_
        · rw [(Session.connect_makes ..).state]
        · rw [(Session.connect_makes ..).state]
    exact hown.bind hsetup s hs
  | start name parent attributes time =>
    rw [make, Call.map_apply]
    exact (Session.start_quiet name parent attributes time s).numbered hs
  | setAttribute number key value =>
    exact (Session.setAttribute_quiet number key value s).numbered hs
  | setStatus number code description =>
    exact (Session.record_quiet number (·.setStatus code description) s).numbered hs
  | rename number name => exact (Session.record_quiet number (·.rename name) s).numbered hs
  | addNote number name attributes time =>
    exact (Session.addNote_quiet number name attributes time s).numbered hs
  | finish number time => exact Session.finish_numbered number time s hs
  | flush =>
    rw [make, Call.map_apply]
    exact Session.flush_numbered s hs
  | shutdown => exact Session.shutdown_numbered s hs

theorem numbered_run {s : Session} (hs : s.IsNumbered) (calls : List SessionCall) :
    (Call.stateAfter make calls s).IsNumbered :=
  Call.stateAfter_preserves make (fun call _ => make_numbered call) hs

end SessionCall

end SpanExport
