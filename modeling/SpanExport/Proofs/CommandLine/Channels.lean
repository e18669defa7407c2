import Mathlib.Data.List.Perm.Basic
import SpanExport.Proofs.CommandLine.Occurrences
import SpanExport.Proofs.CommandLine.Shadowing
import SpanExport.Proofs.Number.Shortest

/-!
# Two ways to say the same

The settings of a configuration can be written into the environment or onto the command line, the
fraction with its fewest digits. Both ways give the same configuration back, whatever else the
environment has and in whatever order the options come.
-/

namespace SpanExport

/-- What can be said with variables and with options. -/
structure Settings where
  writekey : String
  dataset : String
  sampleFraction : Binary64
  serviceName : String
  apiHost : String
  debug : Bool

namespace Settings

variable (s : Settings)

def configuration : Configuration where
  writekey := .text s.writekey
  dataset := .text s.dataset
  sampleFraction := .float s.sampleFraction
  serviceName := .text s.serviceName
  apiHost := .text s.apiHost
  debug := .bool s.debug

/-! ## The environment -/

/-- The variables are set to the settings; there may be others. -/
structure IsSetIn (env : Environment) : Prop where
  writekey : env "HONEYCOMB_WRITEKEY" = some s.writekey
  dataset : env "HONEYCOMB_DATASET" = some s.dataset
  sampleFraction : env "HONEYCOMB_SAMPLE_FRACTION" = some s.sampleFraction.text
  serviceName : env "HONEYCOMB_SERVICE_NAME" = some s.serviceName
  apiHost : env "HONEYCOMB_API_HOST" = some s.apiHost
  debug : env "HONEYCOMB_DEBUG" = some (if s.debug then "true" else "")

theorem isOn_debug (debug : Bool) :
    Environment.isOn (if debug then "true" else "") = debug := by
  cases debug <;> decide +kernel

variable {s} {env : Environment}

theorem configuration_of_isSetIn (h : s.IsSetIn env) : env.configuration = .ok s.configuration := by
  have hfraction : env.fraction = .ok s.sampleFraction := by
    unfold Environment.fraction
    rw [h.sampleFraction]
    simp [Numeral.readReal?_text]
  unfold Environment.configuration
  rw [hfraction, h.writekey, h.dataset, h.serviceName, h.apiHost, h.debug]
  simp only [Option.getD_some, isOn_debug]
  rfl

theorem ofEnvironment_of_isSetIn (h : s.IsSetIn env) :
    Configuration.ofEnvironment env = s.configuration.check := by
  unfold Configuration.ofEnvironment
  rw [configuration_of_isSetIn h]
  rfl

/-! ## The command line -/

variable (s)

/-- Each setting is a word, and so is the switch if it is on. -/
def words : List String :=
  ["--writekey=" ++ s.writekey, "--dataset=" ++ s.dataset, "--service-name=" ++ s.serviceName,
    "--api-host=" ++ s.apiHost, "--sample-fraction=" ++ s.sampleFraction.text] ++
    if s.debug then ["-v"] else []

/-- No text ends the options. -/
def HasNoTerminator : Prop :=
  ∀ text ∈ [s.writekey, s.dataset, s.serviceName, s.apiHost], text ≠ "--"

instance : Decidable s.HasNoTerminator := inferInstanceAs (Decidable (∀ _ ∈ _, _))

def arguments : Arguments where
  writekey := some (.text s.writekey)
  dataset := some (.text s.dataset)
  sampleFraction := some (.float s.sampleFraction)
  serviceName := some (.text s.serviceName)
  apiHost := some (.text s.apiHost)
  verbose := s.debug

/-- The values that are written, with the options that they are written for. -/
def values : List (CommandOption × String) :=
  [(.writekey, s.writekey), (.dataset, s.dataset), (.serviceName, s.serviceName),
    (.apiHost, s.apiHost), (.sampleFraction, s.sampleFraction.text)]

def occurrences : List Occurrence :=
  (s.values.map fun (o, value) => .attached o o.long value) ++
    if s.debug then [.switch "-v"] else []

theorem isSpelled_long (o : CommandOption) : o.IsSpelled o.long := by
  cases o <;> decide +kernel

variable {s}

theorem isValid_occurrences (h : s.HasNoTerminator) : ∀ x ∈ s.occurrences, x.IsValid := by
  have hvalue : ∀ value : CommandOption × String, value ∈ s.values →
      Occurrence.Takes value.1 value.2 ∧ value.2 ≠ "--" := by
    have hread := Numeral.readReal?_text s.sampleFraction
    have hfraction : s.sampleFraction.text ≠ "--" := by
      intro htext
      rw [htext] at hread
      have hnone : Numeral.readReal? "--" = none := by decide +kernel
      rw [hnone] at hread
      cases hread
    simp only [HasNoTerminator, values, Occurrence.Takes, List.forall_mem_cons] at h ⊢
    simp [h, hread, hfraction, CommandOption.takesValue]
  intro x hx
  unfold occurrences at hx
  rcases List.mem_append.1 hx with hx | hx
  · obtain ⟨⟨o, value⟩, hmem, rfl⟩ := List.mem_map.1 hx
    exact ⟨isSpelled_long o, hvalue _ hmem⟩
  · cases hdebug : s.debug with
    | false => simp [hdebug] at hx
    | true =>
      obtain rfl : x = .switch "-v" := by simpa [hdebug] using hx
      decide +kernel

theorem valuesOf_occurrences (s : Settings) (o : CommandOption) :
    Occurrence.valuesOf o s.occurrences =
      s.values.filterMap fun value => if value.1 = o then some value.2 else none := by
  have hswitch : (if s.debug then [Occurrence.switch "-v"] else []).filterMap
      (fun x => if x.option = o then x.value? else none) = [] := by
    cases s.debug <;> simp [Occurrence.value?]
  unfold Occurrence.valuesOf occurrences
  rw [List.filterMap_append, hswitch, List.append_nil, List.filterMap_map]
  rfl

theorem ofOccurrences_occurrences (s : Settings) :
    Arguments.ofOccurrences s.occurrences = s.arguments := by
  have hverbose : (s.occurrences.any fun x => x.option = .verbose) = s.debug := by
    unfold occurrences values
    cases s.debug <;> rfl
  unfold Arguments.ofOccurrences Occurrence.lastValue?
  simp [valuesOf_occurrences, values, hverbose, Numeral.readReal?_text, arguments]

theorem ofOccurrences_eq {xs : List Occurrence} (h : xs.Perm s.occurrences) :
    Arguments.ofOccurrences xs = s.arguments := by
  have honce : ∀ o, (Occurrence.valuesOf o s.occurrences).length ≤ 1 := by
    intro o
    rw [valuesOf_occurrences]
    cases o <;> simp [values]
  rw [Arguments.ofOccurrences_eq_of_perm h honce, ofOccurrences_occurrences]

theorem forall₂_words (s : Settings) :
    List.Forall₂ (fun word (x : Occurrence) => x.words = [word]) s.words s.occurrences := by
  unfold words occurrences values
  cases s.debug <;> simp [Occurrence.words, CommandOption.long]

theorem exists_occurrences {words : List String} (h : words.Perm s.words) :
    ∃ xs : List Occurrence, words = xs.flatMap Occurrence.words ∧ xs.Perm s.occurrences := by
  obtain ⟨xs, hwords, hperm⟩ := List.perm_comp_forall₂ h s.forall₂_words
  refine ⟨xs, ?_, hperm⟩
  clear h hperm
  induction hwords with
  | nil => rfl
  | cons hword hrest ih => rw [List.flatMap_cons, hword, ← ih, List.singleton_append]

theorem parse_words (h : s.HasNoTerminator) {words : List String} (hwords : words.Perm s.words) :
    Arguments.parse words = .ok s.arguments := by
  obtain ⟨xs, rfl, hperm⟩ := exists_occurrences hwords
  have hvalid : ∀ x ∈ xs, x.IsValid := fun x hx => isValid_occurrences h x (hperm.mem_iff.1 hx)
  rw [Arguments.parse_eq_ofOccurrences hvalid, ofOccurrences_eq hperm]

theorem configuration_arguments (hfraction : env.malformedFraction? = none)
    (hdebug : Environment.isOn ((env "HONEYCOMB_DEBUG").getD "") = false) :
    s.arguments.configuration env = s.configuration.check := by
  obtain ⟨x, hx⟩ := Environment.fraction_of_readable hfraction
  rw [Arguments.configuration_of_fraction _ hx]
  unfold Arguments.overlay arguments
  rw [hdebug]
  rfl

/-! ## Both channels -/

/-- Settings that pass the check come back unchanged from an environment that has them, and from the
options in any order wherever the variables for fraction and switch do not get in the way. -/
theorem channels_agree (s : Settings) (h : s.configuration.check = .ok s.configuration) :
    (∀ env, s.IsSetIn env → Configuration.ofEnvironment env = .ok s.configuration) ∧
    (s.HasNoTerminator → ∀ words : List String, words.Perm s.words → ∀ env : Environment,
      env.malformedFraction? = none →
      Environment.isOn ((env "HONEYCOMB_DEBUG").getD "") = false →
      ∃ args, Arguments.parse words = .ok args ∧ args.configuration env = .ok s.configuration) := by
  refine ⟨fun env hset => (ofEnvironment_of_isSetIn hset).trans h, ?_⟩
  intro hterminator words hwords env hfraction hdebug
  exact ⟨s.arguments, parse_words hterminator hwords,
    (configuration_arguments hfraction hdebug).trans h⟩

/-- Texts that look like options, and the least fraction that is not zero. -/
def awkward : Settings where
  writekey := "--dataset=other"
  dataset := " a = b "
  sampleFraction := .finite false 1 0 (by decide)
  serviceName := ""
  apiHost := "-v"
  debug := true

/-- The options are not in the order of the settings, and the environment has a fraction and a
service of its own. -/
theorem channels_awkward :
    awkward.configuration.check = .ok awkward.configuration ∧
    Configuration.ofEnvironment (Environment.ofList
      [("OTEL_SERVICE_NAME", "other"), ("HONEYCOMB_DEBUG", "true"), ("HONEYCOMB_API_HOST", "-v"),
        ("HONEYCOMB_SERVICE_NAME", ""), ("HONEYCOMB_SAMPLE_FRACTION", "5e-324"),
        ("HONEYCOMB_DATASET", " a = b "), ("HONEYCOMB_WRITEKEY", "--dataset=other")]) =
      .ok awkward.configuration ∧
    ∃ args, Arguments.parse ["-v", "--sample-fraction=5e-324", "--api-host=-v",
        "--writekey=--dataset=other", "--service-name=", "--dataset= a = b "] = .ok args ∧
      args.configuration (Environment.ofList
        [("OTEL_SERVICE_NAME", "other"), ("HONEYCOMB_DEBUG", "no"),
          ("HONEYCOMB_SAMPLE_FRACTION", " 0.5 ")]) = .ok awkward.configuration := by
  have hcheck : awkward.configuration.check = .ok awkward.configuration := by
    have hfraction : (Binary64.finite false 1 0 (by decide)).inUnitInterval = true := by
      decide +kernel
    simp [Configuration.check, configuration, Value.comparand, Value.quantity?,
      Quantity.inUnitInterval, Value.isTruthy, hfraction, awkward]
  have htext : awkward.sampleFraction.text = "5e-324" := by decide +kernel
  obtain ⟨hvariables, hoptions⟩ := channels_agree awkward hcheck
  refine ⟨hcheck, hvariables _ ⟨rfl, rfl, ?_, rfl, rfl, rfl⟩, hoptions ?_ _ ?_ _ ?_ ?_⟩
  · rw [htext]
    rfl
  · decide +kernel
  · unfold words
    rw [htext]
    decide +kernel
  · decide +kernel
  · decide +kernel

end Settings

end SpanExport
