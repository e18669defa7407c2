import SpanExport.Application.Setup
import SpanExport.Proofs.Tracing.Sessions

/-!
# Setups that fail

Tracing an application is a setup of its session with steps after it that may fail. A failure
there takes nothing back: the provider stays current and its client open. So a call that fails
leaves everything as it was just when the setup itself fails before there is a client.
-/

namespace SpanExport

/-! ## Clients that are left open -/

namespace Journal

def openings (journal : Journal) : List Nat :=
  journal.clientCalls.filterMap fun | (client, .opened) => some client | _ => none

/-- The clients that were opened and never asked to close. -/
def leftOpen (journal : Journal) : List Nat :=
  journal.openings.filter fun client => client ∉ journal.closings

theorem leftOpen_congr {xs ys : Journal} (h : xs.clientCalls = ys.clientCalls) :
    xs.leftOpen = ys.leftOpen := by
  unfold leftOpen openings closings
  rw [h]

theorem leftOpen_openings {journal : Journal} {backend : Backend} {number : Nat}
    {client : Option Client} (h : journal.clientCalls = backend.openings number client) :
    journal.leftOpen = if client.isNone ∧ backend.createError = none then [number] else [] := by
  unfold leftOpen
  rw [closings_openings h, openings, h]
  cases client with
  | some own => rfl
  | none =>
    rw [Backend.openings]
    cases backend.createError <;> simp

end Journal

/-! ## The session -/

namespace Session

variable {s : Session}

theorem setup_current_iff (hs : s.IsNumbered) (c : Configuration) (kind : ProcessorKind)
    (client : Option Client) (memories : List Nat) :
    (setup c kind client memories s).state.current = s.current ↔
      (∃ failure, s.settingsFor c = .error failure) ∨
        ∃ failure, s.backend.client s.clients c client = .error failure := by
  rcases setup_cases c kind client memories s with ⟨failure, hrefused, hsetup⟩ |
    ⟨settings, hsettings, journal, -, -, -, ⟨failure, hmade, hsetup⟩ | ⟨made, hmade, hsetup⟩⟩
  · simp [hsetup, hrefused]
  · simp [hsetup, hmade]
  · have hnew : some s.providers.length ≠ s.current := by
      intro h
      exact Nat.lt_irrefl _ (hs s.providers.length h.symm)
    rw [hsetup]
    exact iff_of_false hnew (by simp [hsettings, hmade])

theorem setup_leftOpen_iff (c : Configuration) (kind : ProcessorKind) (client : Option Client)
    (memories : List Nat) (s : Session) :
    (setup c kind client memories s).journal.leftOpen = [] ↔
      (∃ failure, s.settingsFor c = .error failure) ∨ client.isSome ∨
        s.backend.createError.isSome := by
  rcases setup_cases c kind client memories s with ⟨failure, hrefused, hsetup⟩ |
    ⟨settings, hsettings, journal, -, hcalls, -, ⟨failure, -, hsetup⟩ | ⟨made, -, hsetup⟩⟩
  · simp [hsetup, hrefused, Journal.leftOpen, Journal.openings]
  all_goals
    rw [hsetup]
    simp only
    rw [Journal.leftOpen_openings hcalls, hsettings]
    cases client <;> cases s.backend.createError <;> simp

end Session

/-! ## The application -/

/-- It touches the application and not the tracing that was set up for it. -/
def Instrumentation.KeepsTracing {α : Type} (i : Instrumentation α) : Prop :=
  ∀ excludedUrls provider host,
    let o := i.instrument excludedUrls provider host
    o.state.session.current = host.session.current ∧ o.journal.clientCalls = []

namespace Application

variable {α σ : Type}

variable {app : Application α σ} {c : Configuration} {client : Option Client}
  {memories : List Nat} {excludedUrls : Value} {failure : Failure}

theorem instrument_of_error {provider : Nat}
    (h : (instrument c excludedUrls provider app).result = .error failure)
    (hi : ∀ i ∈ app.instrumentation, i.KeepsTracing) :
    let o := instrument c excludedUrls provider app
    o.state.lifespan = app.lifespan ∧
      o.state.host.session.current = app.host.session.current ∧ o.journal.clientCalls = [] := by
  revert h
  unfold instrument
  rw [Call.get_bind_apply]
  cases hinstr : app.instrumentation with
  | none => exact fun _ => ⟨rfl, rfl, rfl⟩
  | some i =>
    obtain ⟨hcurrent, hcalls⟩ := hi i hinstr excludedUrls provider app.host
    have hdone : onHost (i.instrument excludedUrls provider) app =
        ⟨{ app with host := (i.instrument excludedUrls provider app.host).state },
          (i.instrument excludedUrls provider app.host).journal,
          (i.instrument excludedUrls provider app.host).result⟩ := rfl
    simp only
    cases hd : (i.instrument excludedUrls provider app.host).result with
    | error cause =>
      rw [hd] at hdone
      rw [Call.bind_of_error _ hdone]
      exact fun _ => ⟨rfl, hcurrent, hcalls⟩
    | ok u =>
      -- After the instrumentation nothing can fail.
      rw [hd] at hdone
      rw [Call.bind_of_ok _ hdone]
      intro h
      cases h

theorem setupTracing_of_error
    (h : (setupTracing c client memories excludedUrls app).result = .error failure)
    (hi : ∀ i ∈ app.instrumentation, i.KeepsTracing) :
    let o := setupTracing c client memories excludedUrls app
    let setup := Session.setup c .batch client memories app.host.session
    o.state.lifespan = app.lifespan ∧ o.state.host.session.current = setup.state.current ∧
      o.journal.clientCalls = setup.journal.clientCalls := by
  revert h
  unfold setupTracing
  have hsetup : onHost (Host.tracing (Session.setup c .batch client memories)) app =
      ⟨{ app with host := { app.host with
          session := (Session.setup c .batch client memories app.host.session).state } },
        (Session.setup c .batch client memories app.host.session).journal,
        (Session.setup c .batch client memories app.host.session).result⟩ := rfl
  cases hr : (Session.setup c .batch client memories app.host.session).result with
  | error cause =>
    rw [hr] at hsetup
    rw [Call.bind_of_error _ hsetup]
    exact fun _ => ⟨rfl, rfl, rfl⟩
  | ok provider =>
    rw [hr] at hsetup
    rw [Call.bind_of_ok _ hsetup]
    intro h
    rw [Outcome.after_result] at h
    obtain ⟨hlifespan, hcurrent, hcalls⟩ := instrument_of_error h hi
    refine ⟨hlifespan, hcurrent, ?_⟩
    rw [Outcome.after_journal, Journal.clientCalls_append, hcalls, List.append_nil]

theorem setupTracing_undone_iff (hs : app.host.session.IsNumbered)
    (hi : ∀ i ∈ app.instrumentation, i.KeepsTracing)
    (h : (setupTracing c client memories excludedUrls app).result = .error failure) :
    let o := setupTracing c client memories excludedUrls app
    o.state.host.session.current = app.host.session.current ∧ o.journal.leftOpen = [] ↔
      (∃ failure, app.host.session.settingsFor c = .error failure) ∨
        client = none ∧ ∃ message, app.host.session.backend.createError = some message := by
  obtain ⟨-, hcurrent, hcalls⟩ := setupTracing_of_error h hi
  intro o
  rw [hcurrent, Journal.leftOpen_congr hcalls, Session.setup_current_iff hs,
    Session.setup_leftOpen_iff, ← or_and_left]
  refine or_congr_right ?_
  cases client with
  | some own => simp [Backend.client]
  | none =>
    cases hcreate : app.host.session.backend.createError with
    | some message => simp [Backend.client, hcreate]
    | none => simp

/-- A call that fails never touches the lifespan. It leaves the current provider as it was and no
client open just when the configuration or the environment is refused or the backend makes no
client. Wherever else it fails, a new provider stays current or a client stays open. -/
theorem setupTracing_atomic_iff (app : Application α σ) (hs : app.host.session.IsNumbered)
    (hi : ∀ i ∈ app.instrumentation, i.KeepsTracing) (c : Configuration)
    (client : Option Client) (memories : List Nat) (excludedUrls : Value) {failure : Failure}
    (h : (setupTracing c client memories excludedUrls app).result = .error failure) :
    let o := setupTracing c client memories excludedUrls app
    o.state.lifespan = app.lifespan ∧
      (o.state.host.session.current = app.host.session.current ∧ o.journal.leftOpen = [] ↔
        (∃ failure, app.host.session.settingsFor c = .error failure) ∨
          client = none ∧ ∃ message, app.host.session.backend.createError = some message) :=
  ⟨(setupTracing_of_error h hi).1, setupTracing_undone_iff hs hi h⟩

/-- Every call that a session may have had leaves it numbered, so this is no condition on a session
that started with nothing configured. -/
theorem setupTracing_undone_after {start : Session} (hstart : start.current = none)
    {calls : List SessionCall}
    (hcalls : app.host.session = Call.stateAfter SessionCall.make calls start)
    (hi : ∀ i ∈ app.instrumentation, i.KeepsTracing)
    (h : (setupTracing c client memories excludedUrls app).result = .error failure) :
    let o := setupTracing c client memories excludedUrls app
    o.state.host.session.current = app.host.session.current ∧ o.journal.leftOpen = [] ↔
      (∃ failure, app.host.session.settingsFor c = .error failure) ∨
        client = none ∧ ∃ message, app.host.session.backend.createError = some message := by
  refine setupTracing_undone_iff ?_ hi h
  rw [hcalls]
  exact SessionCall.numbered_run (.of_none hstart) calls

def bareApplication (instrumentation : Option (Instrumentation Unit)) : Application Unit Unit where
  host := ⟨Session.blankSession, ()⟩
  lifespan := ⟨pure (), fun _ => pure ()⟩
  instrumentation

def refusingInstrumentation : Instrumentation Unit where
  instrument _ _ := .ofExcept (.error (.application "RuntimeError" "the application has started"))

def plainConfiguration : Configuration :=
  { writekey := .text "key", dataset := .text "traces", sampleFraction := .int 0 }

/-- Whether the instrumentation is missing or raises an error, tracing has been set up by then. -/
theorem setupTracing_stays_configured :
    let missing := setupTracing plainConfiguration none [] .null (bareApplication none)
    let refused := setupTracing plainConfiguration none [] .null
      (bareApplication (some refusingInstrumentation))
    (Session.blankSession.IsNumbered ∧ refusingInstrumentation.KeepsTracing) ∧
    (missing.result = .error .noInstrumentation ∧
      ¬ (missing.state.host.session.current = none ∧ missing.journal.leftOpen = [])) ∧
    refused.result = .error (.application "RuntimeError" "the application has started") ∧
      ¬ (refused.state.host.session.current = none ∧ refused.journal.leftOpen = []) := by
  intro missing refused
  have hs : Session.blankSession.IsNumbered := Session.IsNumbered.of_none rfl
  have hkeeps : refusingInstrumentation.KeepsTracing := fun _ _ _ => ⟨rfl, rfl⟩
  have hclean : ¬ ((∃ failure, Session.blankSession.settingsFor plainConfiguration =
      .error failure) ∨ (none : Option Client) = none ∧
        ∃ message, Session.blankSession.backend.createError = some message) := by
    rintro (⟨failure, h⟩ | ⟨-, message, h⟩)
    · cases h
    · cases h
  have hmissing : missing.result = .error .noInstrumentation := by decide
  have hrefused : refused.result =
      .error (.application "RuntimeError" "the application has started") := by decide
  obtain ⟨-, hnone⟩ := setupTracing_atomic_iff (bareApplication none) hs (fun i h => by cases h)
    plainConfiguration none [] .null hmissing
  obtain ⟨-, hsome⟩ := setupTracing_atomic_iff (bareApplication (some refusingInstrumentation)) hs
    (fun i h => by cases h; exact hkeeps) plainConfiguration none [] .null hrefused
  exact ⟨⟨hs, hkeeps⟩, ⟨hmissing, mt hnone.1 hclean⟩, hrefused, mt hsome.1 hclean⟩

end Application

end SpanExport
