import SpanExport.Proofs.Delivery.Offer
import SpanExport.Proofs.Tracing.Outlines
import SpanExport.Proofs.Tracing.Sessions

/-!
# Periods

A period lasts from a setup that succeeds to the next shutdown. What should be recorded is said
here by the calls alone: a span that starts in a period and ends in the same one is recorded by
the exporter of its setup, and nothing else is recorded.
-/

namespace SpanExport

/-! ## The exporter of a setup -/

namespace Session

/-- The client of a setup, which the caller opens for it or the backend makes. -/
def clientFor (s : Session) (own : Option OwnClient) (c : Configuration) : Except Failure Client :=
  match own with
  | none => s.backend.client s.clients c none
  | some own => Backend.newClient s.clients own.target own.fields own.transmission

/-- The exporter of a setup, if the setup succeeds. -/
def exporterFor? (s : Session) (own : Option OwnClient) (c : Configuration) : Option Exporter :=
  match s.settingsFor c with
  | .error _ => none
  | .ok _ =>
    match s.clientFor own c with
    | .error _ => none
    | .ok made => some (Exporter.make made c.sampleFraction c.serviceName)

variable {s : Session} {own : Option OwnClient} {c : Configuration}

theorem exporterFor?_of_ok {settings : ProviderSettings} {made : Client}
    (hc : s.settingsFor c = .ok settings) (hm : s.clientFor own c = .ok made) :
    s.exporterFor? own c = some (Exporter.make made c.sampleFraction c.serviceName) := by
  simp [exporterFor?, hc, hm]

theorem exporterFor?_of_refused {failure : Failure} (hc : s.settingsFor c = .error failure) :
    s.exporterFor? own c = none := by
  simp [exporterFor?, hc]

theorem exporterFor?_of_no_client {failure : Failure} (hm : s.clientFor own c = .error failure) :
    s.exporterFor? own c = none := by
  unfold exporterFor?
  rw [hm]
  cases s.settingsFor c <;> rfl

theorem clientFor_eq_ok {made : Client} (h : s.clientFor own c = .ok made) :
    made.number = s.clients ∧ made.isOpen = true ∧
      made.transmission = (own.map OwnClient.transmission).getD s.backend.transmission := by
  rcases own with _ | own
  · obtain ⟨-, hnumber, htransmission, hopen⟩ := Backend.made_eq_ok h
    exact ⟨hnumber, hopen, htransmission⟩
  · obtain ⟨hnumber, htransmission, hopen⟩ := Backend.newClient_eq_ok h
    exact ⟨hnumber, hopen, htransmission⟩

theorem exporterFor?_eq_some {e : Exporter} (h : s.exporterFor? own c = some e) :
    ∃ made, s.clientFor own c = .ok made ∧
      e = Exporter.make made c.sampleFraction c.serviceName := by
  unfold exporterFor? at h
  cases hc : s.settingsFor c with
  | error failure => simp [hc] at h
  | ok settings =>
    cases hm : s.clientFor own c with
    | error failure => simp [hc, hm] at h
    | ok made =>
      simp only [hc, hm, Option.some.injEq] at h
      exact ⟨made, rfl, h.symm⟩

end Session

namespace SessionCall

theorem openOwn_cases (own : Option OwnClient) (s : Session) :
    ∃ (clients : Nat) (journal : Journal), journal.sent = [] ∧
      ((∃ failure, openOwn own s = ⟨{ s with clients }, journal, .error failure⟩ ∧
          ∀ c, s.clientFor own c = .error failure) ∨
        ∃ client, openOwn own s = ⟨{ s with clients }, journal, .ok client⟩ ∧
          ∀ c, s.backend.client clients c client = s.clientFor own c) := by
  rcases own with _ | own
  · exact ⟨s.clients, [], rfl, .inr ⟨none, rfl, fun _ => rfl⟩⟩
  · obtain ⟨hstate, -, -, hsent, hresult⟩ :=
      Session.connect_makes own.target own.fields own.transmission s
    have hopen : openOwn (some own) s =
        ⟨{ s with clients := s.clients + 1 },
          (Session.connect own.target own.fields own.transmission s).journal,
          (Backend.newClient s.clients own.target own.fields own.transmission).map some⟩ := by
      rw [openOwn, Call.map_apply, hstate, hresult]
    rw [hopen]
    refine ⟨s.clients + 1, _, hsent, ?_⟩
    cases hmade : Backend.newClient s.clients own.target own.fields own.transmission with
    | error failure => exact .inl ⟨failure, rfl, fun _ => hmade⟩
    | ok made => exact .inr ⟨some made, rfl, fun _ => hmade.symm⟩

/-- A setup either fails and changes nothing, except that a client may have been opened, or it
puts the provider of its exporter in place. -/
theorem make_setup_cases (own : Option OwnClient) (c : Configuration) (kind : ProcessorKind)
    (memories : List Nat) (s : Session) :
    ∃ (clients : Nat) (journal : Journal), journal.sent = [] ∧
      ((s.exporterFor? own c = none ∧ ∃ failure, (setup own c kind memories).make s =
          ⟨{ s with clients }, journal, .error failure⟩) ∨
        ∃ e settings, s.exporterFor? own c = some e ∧ s.settingsFor c = .ok settings ∧
          (setup own c kind memories).make s =
            ⟨{ s with clients }.withProvider c kind settings e memories, journal, .ok ()⟩) := by
  obtain ⟨opened, before, hbefore, ⟨failure, ho, hclient⟩ | ⟨client, ho, hclient⟩⟩ :=
    openOwn_cases own s
  · refine ⟨opened, before, hbefore,
      .inl ⟨Session.exporterFor?_of_no_client (hclient c), failure, ?_⟩⟩
    rw [make, Call.bind_of_error _ ho]
  have hmake : (setup own c kind memories).make s =
      (((fun _ => ()) <$> Session.setup c kind client memories : Call Session Unit)
        { s with clients := opened }).after before := by
    rw [make, Call.bind_of_ok _ ho]
  rw [hmake, Call.map_apply]
  rcases Session.setup_cases c kind client memories { s with clients := opened } with
    ⟨failure, hrefused, hsetup⟩ | ⟨settings, hsettings, journal, -, -, hsent,
      ⟨failure, hmade, hsetup⟩ | ⟨made, hmade, hsetup⟩⟩
  · refine ⟨opened, before, hbefore,
      .inl ⟨Session.exporterFor?_of_refused hrefused, failure, ?_⟩⟩
    rw [hsetup]
    simp [Outcome.after, Except.map]
  · refine ⟨opened + 1, before ++ journal, by simp [hbefore, hsent],
      .inl ⟨Session.exporterFor?_of_no_client ((hclient c).symm.trans hmade), failure, ?_⟩⟩
    rw [hsetup]
    rfl
  · refine ⟨opened, before ++ journal, by simp [hbefore, hsent], .inr ⟨_, settings,
      Session.exporterFor?_of_ok hsettings ((hclient c).symm.trans hmade), hsettings, ?_⟩⟩
    rw [hsetup]
    rfl

def exporter? (s : Session) : SessionCall → Option Exporter
  | .setup own c _ _ => s.exporterFor? own c
  | _ => none

theorem setsUp_iff (call : SessionCall) (s : Session) :
    call.SetsUp s ↔ (call.exporter? s).isSome = true := by
  cases call with
  | setup own c kind memories =>
    unfold SetsUp exporter?
    obtain ⟨clients, journal, -, ⟨hnone, failure, hmake⟩ | ⟨e, settings, hsome, -, hmake⟩⟩ :=
      make_setup_cases own c kind memories s
    · simp [hnone, hmake]
    · simp [hsome, hmake]
  | _ => simp [SetsUp, exporter?]

instance (call : SessionCall) (s : Session) : Decidable (call.SetsUp s) :=
  decidable_of_iff _ (setsUp_iff call s).symm

theorem exporter?_number {call : SessionCall} {s : Session} {e : Exporter}
    (h : call.exporter? s = some e) : e.client.number = s.clients := by
  cases call with
  | setup own c kind memories =>
    obtain ⟨made, hmade, rfl⟩ := Session.exporterFor?_eq_some h
    exact (Session.clientFor_eq_ok hmade).1
  | _ => cases h

end SessionCall

/-! ## Periods -/

structure Period where
  exporter : Exporter
  /-- The spans that were started in the period and have not ended. -/
  running : List Nat

namespace Period

/-- The period after a call. -/
def next (s : Session) : SessionCall → Option Period → Option Period
  | .setup own c _ _, period => ((s.exporterFor? own c).map fun e => ⟨e, []⟩).or period
  | .start name parent attributes time, some p =>
    match (Session.start name parent attributes time s).result with
    | .ok number => some { p with running := number :: p.running }
    | .error _ => some p
  | .finish number _, some p => some { p with running := p.running.filter (· ≠ number) }
  | .shutdown, _ => none
  | _, period => period

/-- What a call should record. -/
def recorded (s : Session) : SessionCall → Option Period → List (Nat × Event)
  | .finish number time, some p =>
    if number ∈ p.running then
      match s.endedSpan? number time with
      | some (_, span) => p.exporter.records span
      | none => []
    else []
  | _, _ => []

/-- The period after all of the calls. -/
def after : List SessionCall → Option Period → Session → Option Period
  | [], period, _ => period
  | call :: rest, period, s => after rest (next s call period) (call.make s).state

/-- What all of the calls should record. -/
def routed : List SessionCall → Option Period → Session → List (Nat × Event)
  | [], _, _ => []
  | call :: rest, period, s =>
    recorded s call period ++ routed rest (next s call period) (call.make s).state

/-- The exporters of all setups that succeed. -/
def exporters : List SessionCall → Session → List Exporter
  | [], _ => []
  | call :: rest, s => (call.exporter? s).toList ++ exporters rest (call.make s).state

end Period

end SpanExport
