import SpanExport.Proofs.CommandLine.Execution

/-!
# What a run leaves

A run of the command sets tracing up and shuts it down again. Whatever fails on the way, nothing
stays configured unless it is the client of the run that refuses to close.
-/

namespace SpanExport

theorem Session.sendTestSpan_configured {s : Session} (hs : s.current = none) (c : Configuration)
    (name : Value) (attributes : Fields) (note : Option Value) :
    (sendTestSpan c name attributes note s).state.isConfigured = true ↔
      (∃ settings, s.settingsFor c = .ok settings) ∧
        (∃ made, s.backend.client s.clients c none = .ok made) ∧
        s.backend.transmission.closeError.isSome = true := by
  rcases sendTestSpan_cases c name attributes note s with ⟨failure, hrefused, hsend⟩ |
    ⟨settings, hsettings, journal, -, -, -, ⟨failure, hmade, hsend⟩ | ⟨made, hmade, hsend⟩⟩
  · simp [hsend, isConfigured, hs, hrefused]
  · simp [hsend, isConfigured, hs, hmade]
  · obtain ⟨-, -, htransmission, hopen⟩ := Backend.made_eq_ok hmade
    have hserves := makeTestSpan_serves (e := .make made c.sampleFraction c.serviceName) rfl name
      attributes note _ (withProvider_serves (s := s) c settings _ [])
    rw [hsend, Outcome.after_state, Call.ensuring_state,
      (shutdown_serves rfl hopen hserves).1]
    change made.transmission.closeError.isSome = true ↔ _
    rw [htransmission]
    simp [hsettings, hmade]

/-- A run that starts with nothing configured leaves a provider just when its words and the
environment are in order, also for the SDK, its client is made, and this client refuses to
close. -/
theorem runCommand_leaves_provider_iff (words : List String) {s : Session}
    (hs : s.current = none) :
    (runCommand words s).state.isConfigured = true ↔
      ∃ args c attributes message, Arguments.parse words = .ok args ∧
        args.configuration s.environment = .ok c ∧
        Attribute.readAll args.attributes = .ok attributes ∧
        (∃ settings, s.settingsFor c = .ok settings) ∧
        s.backend.createError = none ∧ s.backend.transmission.closeError = some message := by
  cases hparse : Arguments.parse words with
  | error stop => simp [runCommand, hparse, Call.pure_apply, Session.isConfigured, hs]
  | ok args =>
    rw [runCommand_of_parse hparse]
    cases hconf : args.configuration s.environment with
    | error cause =>
      rw [Arguments.execute_of_misconfigured hconf]
      simp [Session.isConfigured, hs, hconf]
    | ok c =>
      cases hread : Attribute.readAll args.attributes with
      | error cause =>
        rw [Arguments.execute_of_unreadable hconf hread]
        simp [Session.isConfigured, hs, hread]
      | ok attributes =>
        have hgiven := Arguments.areGiven_of_parse hparse
        rw [Arguments.execute_of_ok hconf hread, Session.sendTestSpan_configured hs]
        cases hcreate : s.backend.createError with
        | some message => simp [Backend.client, hcreate]
        | none =>
          have hclient := Arguments.client_of_configuration hgiven hconf hcreate s.clients
          simp [hclient, hconf, hread, Option.isSome_iff_exists]

def stuckSession : Session :=
  { Session.blankSession with backend := { transmission := { closeError := some "stuck" } } }

/-- The run reports that the client did not close, and leaves the provider. -/
theorem runCommand_leaves_stuck_provider :
    stuckSession.current = none ∧
      (runCommand ["--dataset", "traces"] stuckSession).result =
        .ok { stderr := "Error: stuck\n", exitCode := 4 } ∧
      (runCommand ["--dataset", "traces"] stuckSession).state.isConfigured = true := by
  have hparse : Arguments.parse ["--dataset", "traces"] =
      .ok { dataset := some (.text "traces") } := rfl
  have hconf : (Arguments.configuration { dataset := some (.text "traces") }
      stuckSession.environment).isOk = true := by decide +kernel
  obtain ⟨c, hc⟩ : ∃ c, Arguments.configuration { dataset := some (.text "traces") }
      stuckSession.environment = .ok c := by
    revert hconf
    cases Arguments.configuration { dataset := some (.text "traces") } stuckSession.environment with
    | error cause => simp [Except.isOk, Except.toBool]
    | ok c => exact fun _ => ⟨c, rfl⟩
  have hsettings : ∃ settings, stuckSession.settingsFor c = .ok settings :=
    Session.settingsFor_isOk (Sdk.standard_isAmple _).toAccepts (Arguments.configuration_eq_ok hc).1
  refine ⟨rfl, by decide +kernel, ?_⟩
  exact (runCommand_leaves_provider_iff _ rfl).2 ⟨_, c, .empty, "stuck", hparse, hc, rfl, hsettings, rfl, rfl⟩

end SpanExport
