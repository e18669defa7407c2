import SpanExport.Proofs.CommandLine.Attributes
import SpanExport.Proofs.CommandLine.Execution

/-!
# Exit codes

The exit code names the first of the three things that can go wrong: the configuration, the
attributes, and the client. The first two are found before anything is done. What a transmission
refuses has no part in it.
-/

namespace SpanExport

namespace Arguments

variable {args : Arguments}

/-! ## What is refused -/

theorem configuration_ne_fraction (hargs : args.AreGiven) (hvalues : args.HaveValues)
    (env : Environment) (cause : QuantityError) :
    args.configuration env ≠ .error (.fraction cause) := by
  cases hm : env.malformedFraction? with
  | some raw => simp [configuration_of_malformed args hm]
  | none =>
    obtain ⟨x, hx⟩ := Environment.fraction_of_readable hm
    rw [configuration_of_fraction args hx]
    obtain ⟨y, hy⟩ : ∃ y, (args.overlay env x).sampleFraction = .float y := by
      cases hf : args.sampleFraction with
      | none => exact ⟨x, by simp [overlay, hf]⟩
      | some value =>
        have hgiven : value ∈ args.values .sampleFraction := by simp [values, hf]
        obtain ⟨y, hy⟩ := hargs.fraction hvalues hgiven
        exact ⟨y, by simp [overlay, hf, hy]⟩
    have hquantity : (args.overlay env x).sampleFraction.comparand "<=" = .ok (.float y) := by
      rw [hy]
      rfl
    unfold Configuration.check
    rw [hquantity]
    simp only
    split
    · simp
    · split
      · simp
      · split <;> simp

theorem attributes_text (hargs : args.AreGiven) (hvalues : args.HaveValues) :
    ∀ value ∈ args.attributes, ∃ text, value = .text text :=
  fun _ h => hargs.text hvalues (o := .attr) (by decide) h

/-- The text of an attribute has no key. -/
def HasMalformed (args : Arguments) : Prop :=
  ∃ text, .text text ∈ args.attributes ∧ Attribute.IsMalformed text

end Arguments

/-- The client of a run cannot be made, or it does not close. -/
def Backend.IsFailing (backend : Backend) : Prop :=
  backend.createError.isSome = true ∨ backend.transmission.closeError.isSome = true

/-! ## Reports -/

namespace Report

def TellsOfSpan (report : Report) : Prop := "Sent span ".toList <+: report.stderr.toList

theorem not_tellsOfSpan {report : Report} {start rest : String}
    (h : report.stderr = start ++ rest) (hstart : start.toList.head? = some 'E') :
    ¬ report.TellsOfSpan := by
  unfold TellsOfSpan
  rw [h, String.toList_append]
  intro hsent
  cases hs : start.toList with
  | nil => simp [hs] at hstart
  | cons c cs =>
    rw [hs] at hstart hsent
    cases hstart
    cases (List.cons_prefix_cons.1 hsent).1

end Report

namespace Arguments

variable {args : Arguments} {s : Session}

theorem execute_misconfigured (hargs : args.AreGiven) (hvalues : args.HaveValues)
    {cause : ConfigurationError} (h : args.configuration s.environment = .error cause) :
    ∃ report, args.execute s = ⟨s, [], .ok report⟩ ∧ report.exitCode = 1 ∧
      ¬ report.TellsOfSpan := by
  rw [execute_of_misconfigured h]
  have hreport : misconfigured cause = .ok
      { stderr := "Error: Invalid configuration: " ++ cause.message ++ "\n", exitCode := 1 } := by
    cases cause with
    | fraction q => exact absurd h (configuration_ne_fraction hargs hvalues _ q)
    | _ => rfl
  rw [hreport]
  exact ⟨_, rfl, rfl, Report.not_tellsOfSpan (String.append_assoc ..) (by decide)⟩

theorem execute_malformed (hargs : args.AreGiven) (hvalues : args.HaveValues) {c : Configuration}
    (hc : args.configuration s.environment = .ok c) {cause : AttributeError}
    (h : Attribute.readAll args.attributes = .error cause) :
    ∃ report, args.execute s = ⟨s, [], .ok report⟩ ∧ report.exitCode = 2 ∧
      ¬ report.TellsOfSpan := by
  rw [execute_of_unreadable hc h]
  obtain ⟨text, rfl⟩ := Attribute.readAll_eq_error (attributes_text hargs hvalues) h
  exact ⟨_, rfl, rfl, Report.not_tellsOfSpan (String.append_assoc ..) (by decide)⟩

theorem execute_sent (hargs : args.AreGiven) {c : Configuration}
    (hc : args.configuration s.environment = .ok c) {attributes : Fields}
    (h : Attribute.readAll args.attributes = .ok attributes)
    (hsdk : s.sdk.Accepts s.environment) :
    ∃ report, (args.execute s).result = .ok report ∧
      (s.backend.IsFailing ∧ report.exitCode = 4 ∧ ¬ report.TellsOfSpan ∨
        ¬ s.backend.IsFailing ∧ report.exitCode = 0 ∧
          (report.TellsOfSpan ↔ args.verbose = true)) := by
  have hkept : ∀ limits, ∃ kept, initialAttributes limits attributes = .ok kept := fun limits =>
    initialAttributes_of_frozen limits fun entry hentry =>
      ⟨entry.2, (Attribute.readAll_eq_ok h entry hentry).2.frozen⟩
  obtain ⟨settings, hsettings⟩ := Session.settingsFor_isOk hsdk (configuration_eq_ok hc).1
  have hresult := Session.sendTestSpan_result hsettings
    (fun hcreate => client_of_configuration hargs hc hcreate s.clients) hkept args.name args.note
  rw [execute_of_ok hc h]
  refine ⟨_, rfl, ?_⟩
  rw [hresult]
  have hfailing : s.backend.IsFailing ↔
      (s.backend.createError.or s.backend.transmission.closeError).isSome = true := by
    simp [Backend.IsFailing]
  cases hfail : s.backend.createError.or s.backend.transmission.closeError with
  | some message =>
    refine .inl ⟨hfailing.2 (by rw [hfail]; rfl), rfl, ?_⟩
    exact Report.not_tellsOfSpan (String.append_assoc ..) (by decide)
  | none =>
    refine .inr ⟨fun hno => ?_, rfl, ?_⟩
    · have := hfailing.1 hno
      rw [hfail] at this
      cases this
    · unfold Report.TellsOfSpan sentReport sentLine
      cases args.verbose with
      | false => simp
      | true =>
        have hbegin : "Sent span ".toList <+: "Sent span '".toList := by decide
        simp only [if_true, iff_true, String.toList_append, List.append_assoc]
        exact hbegin.trans (List.prefix_append ..)

end Arguments

/-! ## The exit code -/

/-- Whatever the words and the environment say, as long as the SDK accepts the environment, the
code names the first thing that goes wrong, and a run that stops before its span does nothing. -/
theorem runCommand_exitCode (words : List String) (s : Session) {args : Arguments}
    (hparse : Arguments.parse words = .ok args) (hvalues : args.HaveValues)
    (hsdk : s.sdk.Accepts s.environment) :
    ∃ report, (runCommand words s).result = .ok report ∧
      let misconfigured := ∃ cause, args.configuration s.environment = .error cause
      (report.exitCode = 1 ↔ misconfigured) ∧
      (report.exitCode = 2 ↔ ¬ misconfigured ∧ args.HasMalformed) ∧
      (report.exitCode = 4 ↔ ¬ misconfigured ∧ ¬ args.HasMalformed ∧ s.backend.IsFailing) ∧
      (report.exitCode = 0 ↔ ¬ misconfigured ∧ ¬ args.HasMalformed ∧ ¬ s.backend.IsFailing) ∧
      (report.exitCode = 1 ∨ report.exitCode = 2 → runCommand words s = ⟨s, [], .ok report⟩) ∧
      (report.TellsOfSpan ↔ report.exitCode = 0 ∧ args.verbose = true) := by
  have hargs := Arguments.areGiven_of_parse hparse
  have hmalformed : (∃ cause, Attribute.readAll args.attributes = .error cause) ↔
      args.HasMalformed :=
    Attribute.readAll_isError_iff (Arguments.attributes_text hargs hvalues)
  rw [runCommand_of_parse hparse]
  cases hc : args.configuration s.environment with
  | error cause =>
    obtain ⟨report, hexecute, hcode, htells⟩ := Arguments.execute_misconfigured hargs hvalues hc
    exact ⟨report, by rw [hexecute], by simp [hcode, htells, hexecute]⟩
  | ok c =>
    cases hread : Attribute.readAll args.attributes with
    | error cause =>
      obtain ⟨report, hexecute, hcode, htells⟩ :=
        Arguments.execute_malformed hargs hvalues hc hread
      have hyes : args.HasMalformed := hmalformed.1 ⟨cause, hread⟩
      exact ⟨report, by rw [hexecute], by simp [hcode, htells, hexecute, hyes]⟩
    | ok attributes =>
      have hno : ¬ args.HasMalformed := by
        rw [← hmalformed, hread]
        simp
      obtain ⟨report, hresult, ⟨hfail, hcode, htells⟩ | ⟨hfine, hcode, htells⟩⟩ :=
        Arguments.execute_sent hargs hc hread hsdk
      · exact ⟨report, hresult, by simp [hcode, htells, hno, hfail]⟩
      · exact ⟨report, hresult, by simp [hcode, htells, hno, hfine]⟩

/-- What the SDK refuses is found before there is a client, and the code is that of a failure. -/
theorem runCommand_refused {words : List String} {s : Session} {args : Arguments}
    {c : Configuration} {attributes : Fields} {failure : Failure}
    (hparse : Arguments.parse words = .ok args)
    (hc : args.configuration s.environment = .ok c)
    (hread : Attribute.readAll args.attributes = .ok attributes)
    (hrefused : s.settingsFor c = .error failure) :
    runCommand words s =
      ⟨s, [], .ok { stderr := "Error: " ++ failure.message ++ "\n", exitCode := 4 }⟩ := by
  rw [runCommand_of_parse hparse, Arguments.execute_of_ok hc hread,
    Session.sendTestSpan_refused hrefused]
  rfl

def refusedSession : Session :=
  { Session.blankSession with backend := { createError := some "refused" } }

def keylessWords : List String := ["--dataset", "traces", "--attr", "=1"]

def keylessArguments : Arguments :=
  { dataset := some (.text "traces"), attributes := [.text "=1"] }

/-- A client that cannot be made is never asked for if an attribute has no key. -/
theorem runCommand_keyless :
    Arguments.parse keylessWords = .ok keylessArguments ∧ keylessArguments.HaveValues ∧
      ∃ report, report.exitCode = 2 ∧
        runCommand keylessWords refusedSession = ⟨refusedSession, [], .ok report⟩ := by
  have hparse : Arguments.parse keylessWords = .ok keylessArguments := rfl
  have hvalues : keylessArguments.HaveValues := by
    intro o
    cases o <;> simp [keylessArguments, Arguments.values]
  refine ⟨hparse, hvalues, ?_⟩
  obtain ⟨report, -, -, htwo, -, -, hnothing, -⟩ :=
    runCommand_exitCode keylessWords refusedSession hparse hvalues
      (Sdk.standard_isAmple _).toAccepts
  have hconf : (keylessArguments.configuration refusedSession.environment).isOk = true := by
    decide +kernel
  have hcode : report.exitCode = 2 := by
    refine htwo.2 ⟨?_, "=1", List.mem_singleton_self _, .inr (by decide)⟩
    rintro ⟨cause, hcause⟩
    rw [hcause] at hconf
    cases hconf
  exact ⟨report, hcode, hnothing (.inr hcode)⟩

end SpanExport
