import SpanExport.Proofs.CommandLine.Given
import SpanExport.Proofs.CommandLine.Shadowing
import SpanExport.Proofs.CommandLine.TestSpan
import SpanExport.Proofs.Tracing.Outlines
import SpanExport.Proofs.Tracing.Service

/-!
# A run of the command

A run stops at a configuration or an attribute that is refused, and has done nothing by then.
Otherwise it sets tracing up for its own exporter, makes one span, and shuts tracing down again.
-/

namespace SpanExport

/-! ## The client of a run -/

theorem WriteKey.isClassic_of_admits {key : Value} (h : CommandOption.writekey.Admits key) :
    ∃ classic, WriteKey.isClassic key = .ok classic := by
  rcases (CommandOption.admits_iff (by decide)).1 h with rfl | ⟨s, rfl⟩
  · exact ⟨true, rfl⟩
  · unfold isClassic
    split
    · exact ⟨true, rfl⟩
    · exact ⟨_, rfl⟩

theorem WriteKey.dataset_of_admits {key dataset : Value}
    (hkey : CommandOption.writekey.Admits key) (hdataset : CommandOption.dataset.Admits dataset)
    (h : dataset.isTruthy = true) : ∃ corrected, WriteKey.dataset key dataset = .ok corrected := by
  rcases (CommandOption.admits_iff (by decide)).1 hdataset with rfl | ⟨s, rfl⟩
  · cases h
  · obtain ⟨classic, hclassic⟩ := isClassic_of_admits hkey
    obtain ⟨correction, hcorrection⟩ : ∃ x, correction? (.text s) = .ok x := ⟨_, rfl⟩
    unfold WriteKey.dataset
    rw [hcorrection, hclassic]
    cases correction with
    | none => exact ⟨_, rfl⟩
    | some corrected => exact ⟨_, rfl⟩

namespace Arguments

theorem configuration_eq_ok {args : Arguments} {env : Environment} {c : Configuration}
    (h : args.configuration env = .ok c) :
    c.check = .ok c ∧ ∃ x, env.fraction = .ok x ∧ c = args.overlay env x := by
  cases hm : env.malformedFraction? with
  | some raw =>
    rw [configuration_of_malformed args hm] at h
    cases h
  | none =>
    obtain ⟨x, hx⟩ := Environment.fraction_of_readable hm
    rw [configuration_of_fraction args hx] at h
    have hc := Configuration.eq_of_check h
    rw [← hc] at h
    exact ⟨h, x, hx, hc⟩

theorem admits_of_configuration {args : Arguments} (hargs : args.AreGiven) {env : Environment}
    {c : Configuration} (h : args.configuration env = .ok c) :
    CommandOption.writekey.Admits c.writekey ∧ CommandOption.dataset.Admits c.dataset := by
  obtain ⟨-, x, -, rfl⟩ := configuration_eq_ok h
  refine ⟨CommandOption.admits_getD (by decide) fun v hv => ?_,
    CommandOption.admits_getD (by decide) fun v hv => ?_⟩
  · exact hargs .writekey v (Option.mem_toList.2 hv)
  · exact hargs .dataset v (Option.mem_toList.2 hv)

theorem dataset_of_configuration {args : Arguments} (hargs : args.AreGiven) {env : Environment}
    {c : Configuration} (h : args.configuration env = .ok c) :
    ∃ text, c.dataset = .text text ∧ text ≠ "" := by
  have htruthy := (Configuration.parts_of_check (configuration_eq_ok h).1).1
  rcases (CommandOption.admits_iff (by decide)).1 (admits_of_configuration hargs h).2 with
    hnone | ⟨text, htext⟩
  · rw [hnone] at htruthy
    cases htruthy
  · refine ⟨text, htext, ?_⟩
    rw [htext] at htruthy
    simpa [Value.isTruthy] using htruthy

theorem client_of_configuration {args : Arguments} (hargs : args.AreGiven) {env : Environment}
    {c : Configuration} (h : args.configuration env = .ok c) {backend : Backend}
    (hcreate : backend.createError = none) (number : Nat) :
    ∃ made, backend.client number c none = .ok made := by
  obtain ⟨hkey, hdataset⟩ := admits_of_configuration hargs h
  obtain ⟨corrected, hcorrected⟩ := WriteKey.dataset_of_admits hkey hdataset
    (Configuration.parts_of_check (configuration_eq_ok h).1).1
  unfold Backend.client Backend.newClient
  rw [hcreate]
  simp only [hcorrected]
  exact ⟨_, rfl⟩

end Arguments

/-! ## The span of a run -/

namespace Session

theorem start_serves (e : Exporter) (name : Value) (parent : Option Nat) (attributes : Fields)
    (time : Option Int) : Call.Preserves (Serves e) (start name parent attributes time) :=
  fun s hs => (start_quiet name parent attributes time s).serves hs

theorem addNote_serves (e : Exporter) (number : Nat) (name : String) (attributes : Fields)
    (time : Option Int) : Call.Preserves (Serves e) (addNote number name attributes time) :=
  fun s hs => (addNote_quiet number name attributes time s).serves hs

theorem makeTestSpan_serves {e : Exporter} (hopen : e.isClosed = false) (name : Value)
    (attributes : Fields) (note : Option Value) :
    Call.Preserves (Serves e) (makeTestSpan name attributes note) := by
  rw [makeTestSpan_eq]
  refine (start_serves e name none attributes none).bind fun span => ?_
  have hfinish := finish_serves hopen span none
  cases noteText? note with
  | none => exact hfinish
  | some text => exact (addNote_serves e span text .empty none).bind fun _ => hfinish

theorem start_succeeds {attributes : Fields}
    (h : ∀ limits, ∃ kept, initialAttributes limits attributes = .ok kept) (name : Value)
    (parent : Option Nat) (time : Option Int) :
    Call.Succeeds (start name parent attributes time) := by
  intro s
  rcases start_outlines name parent attributes time s with
    ⟨⟨limits, cause, hcause, -⟩, -⟩ | ⟨hresult, -⟩
  · obtain ⟨kept, hkept⟩ := h limits
    rw [hkept] at hcause
    cases hcause
  · exact ⟨_, hresult⟩

theorem addNote_succeeds (number : Nat) (name : String) (time : Option Int) :
    Call.Succeeds (addNote number name .empty time) := by
  intro s
  unfold addNote
  rw [Call.get_bind_apply]
  rcases s.recording? number with _ | ⟨provider, r⟩
  · exact ⟨(), rfl⟩
  · cases time <;> exact ⟨(), rfl⟩

theorem makeTestSpan_succeeds {attributes : Fields}
    (h : ∀ limits, ∃ kept, initialAttributes limits attributes = .ok kept) (name : Value)
    (note : Option Value) : Call.Succeeds (makeTestSpan name attributes note) := by
  rw [makeTestSpan_eq]
  refine (start_succeeds h name none none).bind fun span => ?_
  have hfinish := finish_succeeds span none
  cases noteText? note with
  | none => exact hfinish
  | some text => exact (addNote_succeeds span text none).bind fun _ => hfinish

/-- A run sets tracing up for a new exporter and makes its span there, unless its settings are
refused or there is no client. -/
theorem sendTestSpan_cases (c : Configuration) (name : Value) (attributes : Fields)
    (note : Option Value) (s : Session) :
    (∃ failure, s.settingsFor c = .error failure ∧
        sendTestSpan c name attributes note s = ⟨s, [], .error failure⟩) ∨
      ∃ settings, s.settingsFor c = .ok settings ∧ ∃ journal : Journal,
        journal.requests = Backend.requests c none ∧
        journal.clientCalls = s.backend.openings s.clients none ∧ journal.sent = [] ∧
        ((∃ failure, s.backend.client s.clients c none = .error failure ∧
            sendTestSpan c name attributes note s =
              ⟨{ s with clients := s.clients + 1 }, journal, .error failure⟩) ∨
          ∃ made, s.backend.client s.clients c none = .ok made ∧
            sendTestSpan c name attributes note s =
              (Call.ensuring (makeTestSpan name attributes note) shutdown
                (s.withProvider c .simple settings
                  (Exporter.make made c.sampleFraction c.serviceName) [])).after journal) := by
  unfold sendTestSpan
  rcases setup_cases c .simple none [] s with ⟨failure, hrefused, hsetup⟩ | ⟨settings, hsettings,
    journal, hrequests, hcalls, hsent, ⟨failure, hmade, hsetup⟩ | ⟨made, hmade, hsetup⟩⟩
  · exact .inl ⟨failure, hrefused, Call.bind_of_error _ hsetup⟩
  · exact .inr ⟨settings, hsettings, journal, hrequests, hcalls, hsent,
      .inl ⟨failure, hmade, Call.bind_of_error _ hsetup⟩⟩
  · exact .inr ⟨settings, hsettings, journal, hrequests, hcalls, hsent,
      .inr ⟨made, hmade, Call.bind_of_ok _ hsetup⟩⟩

theorem sendTestSpan_refused {c : Configuration} {failure : Failure}
    (h : s.settingsFor c = .error failure) (name : Value) (attributes : Fields)
    (note : Option Value) :
    sendTestSpan c name attributes note s = ⟨s, [], .error failure⟩ := by
  rcases sendTestSpan_cases c name attributes note s with ⟨cause, hcause, hsend⟩ |
    ⟨settings, hsettings, -⟩
  · cases h.symm.trans hcause
    exact hsend
  · cases h.symm.trans hsettings

theorem sendTestSpan_result {c : Configuration} {settings : ProviderSettings}
    (hsettings : s.settingsFor c = .ok settings)
    (hclient : s.backend.createError = none →
      ∃ made, s.backend.client s.clients c none = .ok made)
    {attributes : Fields} (hkept : ∀ limits, ∃ kept, initialAttributes limits attributes = .ok kept)
    (name : Value) (note : Option Value) :
    (sendTestSpan c name attributes note s).result =
      match s.backend.createError.or s.backend.transmission.closeError with
      | some message => .error (.client message)
      | none => .ok () := by
  rcases sendTestSpan_cases c name attributes note s with ⟨failure, hrefused, -⟩ |
    ⟨own, -, journal, -, -, -, ⟨failure, hmade, hsend⟩ | ⟨made, hmade, hsend⟩⟩
  · rw [hsettings] at hrefused
    cases hrefused
  · cases hcreate : s.backend.createError with
    | none =>
      obtain ⟨made, hok⟩ := hclient hcreate
      rw [hok] at hmade
      cases hmade
    | some message =>
      have hfailure : failure = .client message := by
        simpa [Backend.client, hcreate, eq_comm] using hmade
      rw [hsend, hfailure]
      rfl
  · obtain ⟨hcreate, -, htransmission, hopen⟩ := Backend.made_eq_ok hmade
    let e := Exporter.make made c.sampleFraction c.serviceName
    let t := s.withProvider c .simple own e []
    have hserves : Serves e (makeTestSpan name attributes note t).state :=
      makeTestSpan_serves rfl name attributes note t (withProvider_serves c own e [])
    obtain ⟨-, hshut, -, -⟩ := shutdown_serves rfl hopen hserves
    obtain ⟨u, hspan⟩ := makeTestSpan_succeeds hkept name note t
    have hclose : e.client.transmission.closeError = s.backend.transmission.closeError := by
      rw [← htransmission]
      rfl
    rw [hclose] at hshut
    rw [hsend, Outcome.after_result, Call.ensuring_apply, hcreate, Option.none_or]
    simp only
    rw [hshut, hspan]
    cases s.backend.transmission.closeError <;> rfl

end Session

/-! ## The command -/

namespace Arguments

variable {args : Arguments} {s : Session}

/-- How a run ends whose configuration is refused. -/
def misconfigured : ConfigurationError → Except Failure Report
  | .fraction cause => .error (.configuration (.fraction cause))
  | e => .ok { stderr := "Error: Invalid configuration: " ++ e.message ++ "\n", exitCode := 1 }

/-- How a run ends with an attribute that is refused. -/
def unreadable : AttributeError → Except Failure Report
  | .noText kind => .error (.attribute (.noText kind))
  | e => .ok { stderr := "Error: Invalid attribute: " ++ e.message ++ "\n", exitCode := 2 }

/-- How a run ends that came to its span. -/
def sentReport (args : Arguments) (c : Configuration) : Except Failure Unit → Report
  | .error e => { stderr := "Error: " ++ e.message ++ "\n", exitCode := 4 }
  | .ok _ => { stderr := args.sentLine c, exitCode := 0 }

theorem execute_of_misconfigured {cause : ConfigurationError}
    (h : args.configuration s.environment = .error cause) :
    args.execute s = ⟨s, [], misconfigured cause⟩ := by
  unfold execute
  rw [Call.get_bind_apply, h]
  cases cause <;> rfl

theorem execute_of_unreadable {c : Configuration} {cause : AttributeError}
    (hc : args.configuration s.environment = .ok c)
    (h : Attribute.readAll args.attributes = .error cause) :
    args.execute s = ⟨s, [], unreadable cause⟩ := by
  unfold execute
  rw [Call.get_bind_apply, hc]
  simp only
  rw [h]
  cases cause <;> rfl

theorem execute_of_ok {c : Configuration} {attributes : Fields}
    (hc : args.configuration s.environment = .ok c)
    (h : Attribute.readAll args.attributes = .ok attributes) :
    let sending := Session.sendTestSpan c args.name attributes args.note s
    args.execute s =
      ⟨sending.state, sending.journal, .ok (args.sentReport c sending.result)⟩ := by
  intro sending
  unfold execute
  rw [Call.get_bind_apply, hc]
  simp only
  rw [h]
  simp only
  rw [Call.attempt_bind_apply]
  cases (Session.sendTestSpan c args.name attributes args.note s).result <;>
    simp [sending, Outcome.after, Call.pure_apply, sentReport]

end Arguments

theorem runCommand_of_parse {words : List String} {args : Arguments}
    (h : Arguments.parse words = .ok args) : runCommand words = args.execute := by
  unfold runCommand
  rw [h]

end SpanExport
