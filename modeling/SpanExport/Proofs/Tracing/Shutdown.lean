import SpanExport.Proofs.Tracing.Sessions

/-!
# Shutting a session down

A shutdown ends the current provider alone. So it leaves every client closed, and nothing more
recorded, just when no setup took the place of a provider that was still current.
-/

namespace SpanExport.Session

/-- The clients of all exporters that were set up. -/
def registered (s : Session) : List Nat := s.lifelines.flatten.map (·.client)

/-- The closings so far are those of the exporters that were closed, and the current provider has
an open one. -/
structure Accounts (s : Session) (closings : List Nat) : Prop where
  nodup : s.registered.Nodup
  less : ∀ client ∈ s.registered, client < s.clients
  subset : ∀ client ∈ closings, client ∈ s.registered
  count : ∀ l ∈ s.lifelines.flatten, closings.count l.client = if l.isClosed then 1 else 0
  current : ∀ number, s.current = some number →
    ∃ lines, s.lifelines[number]? = some lines ∧ lines ≠ [] ∧ ∀ l ∈ lines, l.isClosed = false

/-- Nothing is open but at the current provider. -/
def IsTidy (s : Session) : Prop :=
  ∀ (i : Nat) lines, s.lifelines[i]? = some lines → s.current ≠ some i →
    ∀ l ∈ lines, l.isClosed = true

variable {s : Session} {closings : List Nat}

/-! ## One call -/

theorem registered_modify (lines : List (List Lifeline)) (number : Nat) :
    ((lines.modify number (List.map Lifeline.closed)).flatten.map (·.client)) =
      lines.flatten.map (·.client) := by
  rw [List.map_flatten, List.map_flatten]
  congr 1
  apply List.ext_getElem?
  intro i
  rw [List.getElem?_map, List.getElem?_map, List.getElem?_modify]
  by_cases hi : number = i
  · cases lines[i]? <;> simp [hi, Lifeline.closed]
  · simp [hi]

theorem Ended.registered {o : Outcome Session Unit} {number : Nat} (he : Ended number s o) :
    o.state.registered = s.registered := by
  unfold Session.registered
  rw [he.lifelines, registered_modify]

section

variable {α : Type} {o : Outcome Session α}

theorem Kept.registered (hk : Kept s o) : o.state.registered = s.registered := by
  unfold Session.registered
  rw [hk.lifelines]

theorem Opened.registered {client : Nat} (ho : Opened client s o) :
    o.state.registered = s.registered ++ [client] := by
  unfold Session.registered
  rw [ho.lifelines]
  simp

theorem Accounts.kept (h : Accounts s closings) (hk : Kept s o) :
    Accounts o.state (closings ++ o.journal.closings) := by
  have hreg := hk.registered
  rw [hk.closings, List.append_nil]
  refine ⟨?_, ?_, ?_, ?_, ?_⟩
  · rw [hreg]
    exact h.nodup
  · rw [hreg]
    intro client hmem
    exact Nat.lt_of_lt_of_le (h.less client hmem) hk.clients
  · rw [hreg]
    exact h.subset
  · rw [hk.lifelines]
    exact h.count
  · rw [hk.lifelines, hk.current]
    exact h.current

theorem IsTidy.kept_iff (hk : Kept s o) : o.state.IsTidy ↔ s.IsTidy := by
  unfold IsTidy
  rw [hk.lifelines, hk.current]

theorem Accounts.opened (h : Accounts s closings) (ho : Opened s.clients s o) :
    Accounts o.state (closings ++ o.journal.closings) := by
  have hreg := ho.registered
  have hfresh : s.clients ∉ s.registered := fun hmem => by
    have := h.less _ hmem
    omega
  rw [ho.closings, List.append_nil]
  refine ⟨?_, ?_, ?_, ?_, ?_⟩
  · rw [hreg, List.nodup_append]
    refine ⟨h.nodup, by simp, ?_⟩
    rintro a ha b hb rfl
    exact hfresh (List.mem_singleton.1 hb ▸ ha)
  · rw [hreg]
    intro client hmem
    have hless := ho.clients
    rcases List.mem_append.1 hmem with hmem | hmem
    · have := h.less client hmem
      omega
    · rw [List.mem_singleton.1 hmem]
      exact hless
  · rw [hreg]
    exact fun client hmem => List.mem_append_left _ (h.subset client hmem)
  · rw [ho.lifelines, List.flatten_append, List.forall_mem_append]
    refine ⟨h.count, fun l hl => ?_⟩
    have hl : l = ⟨s.clients, none, false⟩ := by simpa using hl
    subst hl
    -- Closings are of registered clients only, and this one was not registered before.
    exact List.count_eq_zero_of_not_mem fun hmem => hfresh (h.subset _ hmem)
  · intro number hn
    rw [ho.current] at hn
    cases hn
    refine ⟨_, by rw [ho.lifelines, List.getElem?_concat_length], by simp, by simp⟩

theorem IsTidy.opened {client : Nat} (ho : Opened client s o) (ht : s.IsTidy)
    (hc : s.current = none) : o.state.IsTidy := by
  unfold IsTidy
  rw [ho.lifelines, ho.current]
  intro i lines hl hi
  have hlt : i < s.lifelines.length := by
    obtain ⟨hlt, -⟩ := List.getElem?_eq_some_iff.1 hl
    have hne : i ≠ s.lifelines.length := fun he => hi (by rw [he])
    rw [List.length_append, List.length_singleton] at hlt
    omega
  rw [List.getElem?_append_left hlt] at hl
  exact ht i lines hl (by rw [hc]; simp)

theorem IsTidy.opened_iff (h : Accounts s closings) {client : Nat} (ho : Opened client s o) :
    o.state.IsTidy ↔ s.IsTidy ∧ s.current = none := by
  constructor
  · unfold IsTidy
    rw [ho.lifelines, ho.current]
    intro ht
    have hold : ∀ (i : Nat) lines, s.lifelines[i]? = some lines →
        ∀ l ∈ lines, l.isClosed = true := by
      intro i lines hl
      obtain ⟨hi, -⟩ := List.getElem?_eq_some_iff.1 hl
      refine ht i lines ?_ ?_
      · rw [List.getElem?_append_left hi]
        exact hl
      · intro he
        cases he
        omega
    refine ⟨fun i lines hl _ => hold i lines hl, ?_⟩
    rcases hc : s.current with _ | number
    · rfl
    · obtain ⟨lines, hl, hne, hopen⟩ := h.current number hc
      obtain ⟨l, hmem⟩ := List.exists_mem_of_ne_nil lines hne
      have hclosed := hold number lines hl l hmem
      rw [hopen l hmem] at hclosed
      cases hclosed
  · rintro ⟨ht, hc⟩
    exact ht.opened ho hc

end

theorem count_closed {before lines after : List Lifeline}
    (hnodup : ((before ++ (lines ++ after)).map (·.client)).Nodup)
    (hcount : ∀ l ∈ before ++ (lines ++ after),
      closings.count l.client = if l.isClosed then 1 else 0)
    (hopen : ∀ l ∈ lines, l.isClosed = false) :
    ∀ l ∈ before ++ (lines.map Lifeline.closed ++ after),
      (closings ++ lines.map (·.client)).count l.client = if l.isClosed then 1 else 0 := by
  rw [List.map_append, List.map_append, List.nodup_append, List.nodup_append] at hnodup
  obtain ⟨-, ⟨hlines, -, hafter⟩, hbefore⟩ := hnodup
  intro l hl
  rw [List.count_append]
  rcases List.mem_append.1 hl with hl | hl
  · have hzero : (lines.map (·.client)).count l.client = 0 := by
      refine List.count_eq_zero_of_not_mem fun hmem => ?_
      exact hbefore _ (List.mem_map_of_mem hl) _ (List.mem_append_left _ hmem) rfl
    rw [hzero, hcount l (List.mem_append_left _ hl)]
    rfl
  rcases List.mem_append.1 hl with hl | hl
  · obtain ⟨m, hm, rfl⟩ := List.mem_map.1 hl
    have hzero := hcount m (List.mem_append_right _ (List.mem_append_left _ hm))
    rw [hopen m hm] at hzero
    have hone : (lines.map (·.client)).count m.client = 1 := by
      rw [hlines.count, if_pos (List.mem_map_of_mem hm)]
    rw [Lifeline.closed, hzero, hone]
    rfl
  · have hzero : (lines.map (·.client)).count l.client = 0 := by
      refine List.count_eq_zero_of_not_mem fun hmem => ?_
      exact hafter _ hmem _ (List.mem_map_of_mem hl) rfl
    rw [hzero, hcount l (List.mem_append_right _ (List.mem_append_right _ hl))]
    rfl

theorem Accounts.ended {o : Outcome Session Unit} (h : Accounts s closings) {number : Nat}
    (hc : s.current = some number) (he : Ended number s o) :
    Accounts o.state (closings ++ o.journal.closings) := by
  obtain ⟨lines, hl, -, hopen⟩ := h.current number hc
  have hclosings : o.journal.closings = lines.map (·.client) := by
    rw [he.closings, hl, Option.getD_some, List.filter_eq_self.2]
    intro l hmem
    rw [hopen l hmem]
    rfl
  have hreg := he.registered
  rw [hclosings]
  refine ⟨?_, ?_, ?_, ?_, ?_⟩
  · rw [hreg]
    exact h.nodup
  · rw [hreg, ← he.clients]
    exact h.less
  · rw [hreg]
    intro client hmem
    rcases List.mem_append.1 hmem with hmem | hmem
    · exact h.subset client hmem
    · obtain ⟨l, hl', rfl⟩ := List.mem_map.1 hmem
      exact List.mem_map_of_mem (List.mem_flatten.2 ⟨lines, List.mem_of_getElem? hl, hl'⟩)
  · -- The lines of the provider stand in the middle, and no other line has one of their clients.
    obtain ⟨hi, -⟩ := List.getElem?_eq_some_iff.1 hl
    obtain ⟨before, found, after, hs, rfl, hmod⟩ :=
      List.exists_of_modify (List.map Lifeline.closed) hi
    have hfound : found = lines := by
      rw [hs] at hl
      simpa using hl
    subst hfound
    have hnodup := h.nodup
    have hcount := h.count
    unfold registered at hnodup
    rw [hs, List.flatten_append, List.flatten_cons] at hnodup hcount
    rw [he.lifelines, hmod, List.flatten_append, List.flatten_cons]
    exact count_closed hnodup hcount hopen
  · intro i hn
    rw [he.current] at hn
    cases hn

theorem IsTidy.ended_iff {o : Outcome Session Unit} {number : Nat}
    (hc : s.current = some number) (he : Ended number s o) : o.state.IsTidy ↔ s.IsTidy := by
  unfold IsTidy
  rw [he.lifelines, he.current, hc]
  constructor
  · intro ht i lines hl hi
    have hne : number ≠ i := fun h => hi (by rw [h])
    refine ht i lines ?_ (by simp)
    rw [List.getElem?_modify]
    simpa [hne] using hl
  · intro ht i lines hl _
    rw [List.getElem?_modify] at hl
    by_cases hi : number = i
    · obtain ⟨old, -, rfl⟩ := Option.map_eq_some_iff.1 hl
      intro l hmem
      simp only [hi, if_true] at hmem
      obtain ⟨m, -, rfl⟩ := List.mem_map.1 hmem
      rfl
    · refine ht i lines (by simpa [hi] using hl) ?_
      intro h
      cases h
      exact hi rfl

/-! ## Many calls -/

/-- Only a setup over a current provider leaves something open behind. -/
theorem accounts_make (hs : s.IsSteady) (h : Accounts s closings) {call : SessionCall}
    (hc : call.IsSmooth) :
    Accounts (call.make s).state (closings ++ (call.make s).journal.closings) ∧
      ((call.make s).state.IsTidy ↔ s.IsTidy ∧ (call.SetsUp s → s.current = none)) := by
  rcases SessionCall.make_cases hs hc with ⟨hset, ho⟩ | ⟨hset, hk | ⟨number, hn, he⟩⟩
  · refine ⟨h.opened ho, (IsTidy.opened_iff h ho).trans ?_⟩
    exact and_congr_right fun _ => ⟨fun hn _ => hn, fun hn => hn hset⟩
  · refine ⟨h.kept hk, (IsTidy.kept_iff hk).trans ?_⟩
    exact ⟨fun ht => ⟨ht, fun hcall => absurd hcall hset⟩, And.left⟩
  · refine ⟨h.ended hn he, (IsTidy.ended_iff hn he).trans ?_⟩
    exact ⟨fun ht => ⟨ht, fun hcall => absurd hcall hset⟩, And.left⟩

theorem IsTidy.make (hs : s.IsSteady) (ht : s.IsTidy) {call : SessionCall} (hc : call.IsSmooth)
    (hset : call.SetsUp s → s.current = none) : (call.make s).state.IsTidy := by
  rcases SessionCall.make_cases hs hc with ⟨hcall, ho⟩ | ⟨-, hk | ⟨number, hn, he⟩⟩
  · exact ht.opened ho (hset hcall)
  · exact (IsTidy.kept_iff hk).2 ht
  · exact (IsTidy.ended_iff hn he).2 ht

theorem accounts_run (hs : s.IsSteady) (h : Accounts s closings) {calls : List SessionCall}
    (hcalls : ∀ call ∈ calls, call.IsSmooth) :
    Accounts (Call.stateAfter SessionCall.make calls s)
        (closings ++ (Call.journalOf SessionCall.make calls s).closings) ∧
      ((Call.stateAfter SessionCall.make calls s).IsTidy ↔ s.IsTidy ∧
        Call.Throughout SessionCall.make (fun t call => call.SetsUp t → t.current = none) calls
          s) := by
  -- The closings so far are part of the invariant: a later call adds to them.
  induction calls generalizing s closings with
  | nil =>
    refine ⟨?_, fun ht => ⟨ht, trivial⟩, And.left⟩
    rw [Call.journalOf, Call.history, List.flatMap_nil, Journal.closings_eq_nil rfl,
      List.append_nil]
    exact h
  | cons call rest ih =>
    rw [List.forall_mem_cons] at hcalls
    rw [Call.stateAfter_cons, Call.journalOf_cons, Journal.closings_append, ← List.append_assoc]
    obtain ⟨haccounts, htidy⟩ := accounts_make hs h hcalls.1
    obtain ⟨laccounts, ltidy⟩ := ih (SessionCall.make_steady hs hcalls.1) haccounts hcalls.2
    refine ⟨laccounts, ?_⟩
    rw [ltidy, htidy, and_assoc]
    rfl

theorem registered_make (hs : s.IsSteady) {call : SessionCall} (hc : call.IsSmooth) :
    (∀ client ∈ s.registered, client ∈ (call.make s).state.registered) ∧
      (call.SetsUp s → s.clients ∈ (call.make s).state.registered) := by
  rcases SessionCall.make_cases hs hc with ⟨hset, ho⟩ | ⟨hset, hk | ⟨number, -, he⟩⟩
  · rw [ho.registered]
    refine ⟨fun client hmem => List.mem_append_left _ hmem, fun _ => ?_⟩
    exact List.mem_append_right _ (List.mem_singleton_self _)
  · rw [hk.registered]
    exact ⟨fun _ hmem => hmem, fun hcall => absurd hcall hset⟩
  · rw [he.registered]
    exact ⟨fun _ hmem => hmem, fun hcall => absurd hcall hset⟩

theorem registered_run (hs : s.IsSteady) {calls : List SessionCall}
    (hcalls : ∀ call ∈ calls, call.IsSmooth) :
    ∀ client ∈ s.registered, client ∈ (Call.stateAfter SessionCall.make calls s).registered := by
  intro client hmem
  have hstep : ∀ call ∈ calls, Call.Preserves
      (fun t => t.IsSteady ∧ client ∈ t.registered) call.make := by
    rintro call hcall t ⟨ht, hreg⟩
    exact ⟨SessionCall.make_steady ht (hcalls call hcall),
      (registered_make ht (hcalls call hcall)).1 client hreg⟩
  exact (Call.stateAfter_preserves SessionCall.make hstep ⟨hs, hmem⟩).2

theorem sent_over (hs : s.IsSteady) (hc : s.current = none) (ho : s.IsOver)
    {calls : List SessionCall} (hcalls : ∀ call ∈ calls, call.IsSmooth)
    (hnone : Call.Throughout SessionCall.make (fun t call => ¬ call.SetsUp t) calls s) :
    (Call.journalOf SessionCall.make calls s).sent = [] := by
  induction calls generalizing s with
  | nil => rfl
  | cons call rest ih =>
    rw [List.forall_mem_cons] at hcalls
    obtain ⟨hset, hrest⟩ := hnone
    rcases SessionCall.make_cases hs hcalls.1 with ⟨hcall, -⟩ | ⟨-, hk | ⟨number, hn, -⟩⟩
    · exact absurd hcall hset
    · have hover : (call.make s).state.IsOver := by
        unfold IsOver
        rw [hk.lifelines]
        exact ho
      rw [Call.journalOf_cons, Journal.sent_append, hk.sent ho,
        ih hk.steady (hk.current.trans hc) hover hcalls.2 hrest]
      rfl
    · rw [hc] at hn
      cases hn

/-! ## Shutting down -/

theorem Accounts.isOver_iff (h : Accounts s closings) :
    s.IsOver ↔ ∀ client ∈ s.registered, closings.count client = 1 := by
  unfold registered IsOver
  rw [List.forall_mem_map]
  refine forall₂_congr fun l hl => ?_
  rw [h.count l hl]
  cases l.isClosed <;> simp

theorem Accounts.count_le_one (h : Accounts s closings) (client : Nat) :
    closings.count client ≤ 1 := by
  by_cases hmem : client ∈ closings
  · obtain ⟨l, hl, rfl⟩ := List.mem_map.1 (h.subset client hmem)
    rw [h.count l hl]
    split <;> omega
  · rw [List.count_eq_zero_of_not_mem hmem]
    omega

theorem isTidy_iff_isOver (hc : s.current = none) : s.IsTidy ↔ s.IsOver := by
  constructor
  · intro ht l hl
    obtain ⟨lines, hmem, hl⟩ := List.mem_flatten.1 hl
    obtain ⟨i, hi⟩ := List.getElem?_of_mem hmem
    exact ht i lines hi (by rw [hc]; simp) l hl
  · intro ho i lines hi _ l hl
    exact ho l (List.mem_flatten.2 ⟨lines, List.mem_of_getElem? hi, hl⟩)

theorem shutdown_accounts (hs : s.IsSteady) (h : Accounts s closings) :
    (shutdown s).result = .ok () ∧ (shutdown s).state.IsSteady ∧
      (shutdown s).state.current = none ∧ (shutdown s).state.registered = s.registered ∧
      Accounts (shutdown s).state (closings ++ (shutdown s).journal.closings) ∧
      ((shutdown s).state.IsOver ↔ s.IsTidy) := by
  obtain ⟨hresult, ⟨hc, hk⟩ | ⟨number, hc, he⟩⟩ := shutdown_cases hs
  · have hnone : (shutdown s).state.current = none := hk.current.trans hc
    refine ⟨hresult, hk.steady, hnone, hk.registered, h.kept hk, ?_⟩
    rw [← isTidy_iff_isOver hnone, IsTidy.kept_iff hk]
  · refine ⟨hresult, he.steady, he.current, he.registered, h.ended hc he, ?_⟩
    rw [← isTidy_iff_isOver he.current, IsTidy.ended_iff hc he]

/-- In a session that begins with no provider, a shutdown never fails, every setup that succeeds
registers its client, and no client is closed twice. Each of those registered is closed by then,
and nothing is recorded before the next setup, just when no setup that succeeded found a provider
current. -/
theorem shutdown_closes_all_iff (s : Session) (hproviders : s.providers = [])
    (hcurrent : s.current = none) (hbackend : s.backend.transmission.closeError = none)
    (calls : List SessionCall) (hcalls : ∀ call ∈ calls, call.IsSmooth) :
    let last := Call.stateAfter SessionCall.make calls s
    let closings := (Call.journalOf SessionCall.make calls s ++ (shutdown last).journal).closings
    (shutdown last).result = .ok () ∧
    (∀ before call after, calls = before ++ call :: after →
      call.SetsUp (Call.stateAfter SessionCall.make before s) →
      (Call.stateAfter SessionCall.make before s).clients ∈ last.registered) ∧
    (∀ client, closings.count client ≤ 1) ∧
    ((∀ client ∈ last.registered, closings.count client = 1) ∧
        (∀ later, (∀ call ∈ later, call.IsSmooth) →
          Call.Throughout SessionCall.make (fun t call => ¬ call.SetsUp t) later
            (shutdown last).state →
          (Call.journalOf SessionCall.make later (shutdown last).state).sent = []) ↔
      Call.Throughout SessionCall.make (fun t call => call.SetsUp t → t.current = none) calls
        s) := by
  have hlines : s.lifelines = [] := by
    rw [lifelines, hproviders, List.map_nil]
  have hsteady : s.IsSteady := by
    refine ⟨?_, hbackend⟩
    rw [hproviders]
    simp
  have hstart : Accounts s [] := by
    constructor <;> simp [registered, hlines, hcurrent]
  have htidy : s.IsTidy := by
    unfold IsTidy
    simp [hlines]
  have lsteady := SessionCall.steady_run hsteady hcalls
  obtain ⟨laccounts, ltidy⟩ := accounts_run hsteady hstart hcalls
  rw [List.nil_append] at laccounts
  obtain ⟨hresult, esteady, ecurrent, hreg, eaccounts, hover⟩ :=
    shutdown_accounts lsteady laccounts
  rw [← Journal.closings_append] at eaccounts
  refine ⟨hresult, ?_, eaccounts.count_le_one, ?_⟩
  · rintro before call after rfl hset
    rw [List.forall_mem_append, List.forall_mem_cons] at hcalls
    have bsteady := SessionCall.steady_run hsteady hcalls.1
    rw [Call.stateAfter_append, Call.stateAfter_cons]
    exact registered_run (SessionCall.make_steady bsteady hcalls.2.1) hcalls.2.2 _
      ((registered_make bsteady hcalls.2.1).2 hset)
  -- Everything is over after the shutdown just when the session was tidy before it.
  rw [← hreg, ← eaccounts.isOver_iff]
  constructor
  · rintro ⟨hall, -⟩
    exact (ltidy.1 (hover.1 hall)).2
  · intro hall
    have ho := hover.2 (ltidy.2 ⟨htidy, hall⟩)
    exact ⟨ho, fun later hlater hnone => sent_over esteady ecurrent ho hlater hnone⟩

def plainSetup : SessionCall :=
  .setup none { writekey := .text "key", dataset := .text "traces", sampleFraction := .int 0 }
    .simple []

/-- After two setups the client of the first stays open, and a late span reaches it. -/
theorem shutdown_closes_one_of_two :
    let last := Call.stateAfter SessionCall.make [plainSetup, plainSetup] blankSession
    (blankSession.providers = [] ∧ blankSession.current = none ∧
      blankSession.backend.transmission.closeError = none ∧
      ∀ call ∈ [plainSetup, plainSetup], call.IsSmooth) ∧
    (shutdown last).result = .ok () ∧ last.registered = [0, 1] ∧
    (Call.journalOf SessionCall.make [plainSetup, plainSetup] blankSession ++
      (shutdown last).journal).closings = [1] ∧
    (Call.journalOf SessionCall.make
      [.start (.text "late") none .empty none, .finish 0 none]
      (shutdown last).state).sent.map Prod.fst = [0] ∧
    ¬ Call.Throughout SessionCall.make (fun t call => call.SetsUp t → t.current = none)
      [plainSetup, plainSetup] blankSession := by
  have hsmooth : ∀ call ∈ [plainSetup, plainSetup], call.IsSmooth := by
    simp [plainSetup, SessionCall.IsSmooth]
  obtain ⟨hresult, -, -, hiff⟩ := shutdown_closes_all_iff blankSession rfl rfl rfl _ hsmooth
  refine ⟨⟨rfl, rfl, rfl, hsmooth⟩, hresult, by decide, by decide, by decide, fun hall => ?_⟩
  have hzero := (hiff.2 hall).1 0 (by decide)
  revert hzero
  decide

end SpanExport.Session
