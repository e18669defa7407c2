import Mathlib.Tactic.MkIffOfInductiveProp
import SpanExport.Proofs.CommandLine.Given
import SpanExport.Proofs.CommandLine.Shadowing
import SpanExport.Proofs.Number.Rational

/-!
# Merged settings

A setting comes from its option, or else from the first of its variables that is set, or else it
has its default; what is given as an empty text is given. The settings are checked when all of
them are merged, so a value that loses is never refused. What is no number cannot be checked as a
fraction, and that is an error of another kind.
-/

namespace SpanExport

/-! ## Where a setting comes from -/

/-- The text of the first variable that is set, or the default if none is. -/
inductive Environment.Supplies (env : Environment) (default : String) : List String → String → Prop
  | set {name : String} {rest : List String} {s : String} (h : env name = some s) :
    Supplies env default (name :: rest) s
  | unset {name : String} {rest : List String} {s : String} (h : env name = none)
    (hrest : Supplies env default rest s) : Supplies env default (name :: rest) s
  | default : Supplies env default [] default

namespace CommandOption

/-- The variables that stand in for an option, in order. -/
def variableNames : CommandOption → List String
  | .writekey => ["HONEYCOMB_WRITEKEY"]
  | .dataset => ["HONEYCOMB_DATASET"]
  | .sampleFraction => ["HONEYCOMB_SAMPLE_FRACTION"]
  | .serviceName => ["HONEYCOMB_SERVICE_NAME", "OTEL_SERVICE_NAME"]
  | .apiHost => ["HONEYCOMB_API_HOST"]
  | _ => []

def default : CommandOption → String
  | .sampleFraction => "1"
  | .apiHost => defaultApiHost
  | _ => ""

/-- A text of the environment is read as a number for the fraction and taken as it is otherwise. -/
def Reads (o : CommandOption) (s : String) (value : Value) : Prop :=
  if o = .sampleFraction then ∃ x, Numeral.readReal? s = some x ∧ value = .float x
  else value = .text s

end CommandOption

namespace Arguments

/-- The option where it was given, and what the environment supplies otherwise. -/
def Settles (args : Arguments) (env : Environment) (o : CommandOption) (value : Value) : Prop :=
  args.values o = [value] ∨
    args.values o = [] ∧ ∃ s, env.Supplies o.default o.variableNames s ∧ o.Reads s value

/-- Debugging was asked for with the option or with a word in the environment. -/
def AsksForDebug (args : Arguments) (env : Environment) : Prop :=
  args.verbose = true ∨
    (Text.trimmed ((env "HONEYCOMB_DEBUG").getD "")).map Char.toLower ∈ ["1", "true", "yes", "on"]

@[mk_iff isMerged_iff_settles]
structure IsMerged (args : Arguments) (env : Environment) (c : Configuration) : Prop where
  writekey : args.Settles env .writekey c.writekey
  dataset : args.Settles env .dataset c.dataset
  sampleFraction : args.Settles env .sampleFraction c.sampleFraction
  serviceName : args.Settles env .serviceName c.serviceName
  apiHost : args.Settles env .apiHost c.apiHost
  debug : ∃ b : Bool, c.debug = .bool b ∧ (b = true ↔ args.AsksForDebug env)

end Arguments

/-! ## What becomes of it -/

/-- The values of the command line that are empty: an empty text, or no values at all. -/
def Value.IsEmpty (v : Value) : Prop := v = .text "" ∨ v = .list []

namespace Configuration

def HasFraction (c : Configuration) : Prop := ∃ x, c.sampleFraction = .float x ∧ x.IsPortion

/-- What comes of each configuration that words and environment can give: the first mistake is
reported, and a configuration without one is kept as it is. -/
def ComesTo (c : Configuration) : Except ConfigurationError Configuration → Prop
  | .error .emptyDataset => c.dataset.IsEmpty
  | .error (.fraction cause) =>
    ¬ c.dataset.IsEmpty ∧ c.sampleFraction = .list [] ∧ cause = .comparison "<=" "list"
  | .error (.fractionOutOfRange q) =>
    ¬ c.dataset.IsEmpty ∧ ∃ x, c.sampleFraction = .float x ∧ ¬ x.IsPortion ∧ q = .float x
  | .error .emptyApiHost => ¬ c.dataset.IsEmpty ∧ c.HasFraction ∧ c.apiHost.IsEmpty
  | .error (.fractionNotANumber _) => False
  | .ok d => ¬ c.dataset.IsEmpty ∧ c.HasFraction ∧ ¬ c.apiHost.IsEmpty ∧ d = c

end Configuration

theorem CommandOption.isTruthy_iff {o : CommandOption} (ho : o ≠ .sampleFraction) {value : Value}
    (h : o.Admits value) : value.isTruthy = true ↔ ¬ value.IsEmpty := by
  rcases (admits_iff ho).1 h with rfl | ⟨s, rfl⟩ <;> simp [Value.isTruthy, Value.IsEmpty]

namespace Configuration

variable {c : Configuration}

theorem check_of_comesTo (hdataset : CommandOption.dataset.Admits c.dataset)
    (hhost : CommandOption.apiHost.Admits c.apiHost) {r : Except ConfigurationError Configuration}
    (h : c.ComesTo r) : c.check = r := by
  have hdatasetTruthy := CommandOption.isTruthy_iff (by decide) hdataset
  have hhostTruthy := CommandOption.isTruthy_iff (by decide) hhost
  have hcompare : ∀ x, c.sampleFraction = .float x →
      c.sampleFraction.comparand "<=" = .ok (.float x) := fun x hx => by rw [hx]; rfl
  unfold check
  -- Every outcome says what the checks before it came to.
  match r with
  | .error .emptyDataset =>
    have hempty : c.dataset.isTruthy = false :=
      Bool.eq_false_iff.2 fun htruthy => hdatasetTruthy.1 htruthy h
    simp [hempty]
  | .error (.fraction cause) =>
    obtain ⟨hdataset, hnone, rfl⟩ := h
    simp [hdatasetTruthy.2 hdataset, hnone, Value.comparand, Value.quantity?, Value.kind]
  | .error (.fractionOutOfRange q) =>
    obtain ⟨hdataset, x, hx, hportion, rfl⟩ := h
    have hunit : x.inUnitInterval = false :=
      Bool.eq_false_iff.2 fun hunit => hportion (x.inUnitInterval_iff.1 hunit)
    simp [hdatasetTruthy.2 hdataset, hcompare x hx, Quantity.inUnitInterval, hunit]
  | .error .emptyApiHost =>
    obtain ⟨hdataset, ⟨x, hx, hportion⟩, hhost⟩ := h
    have hempty : c.apiHost.isTruthy = false :=
      Bool.eq_false_iff.2 fun htruthy => hhostTruthy.1 htruthy hhost
    simp [hdatasetTruthy.2 hdataset, hcompare x hx, Quantity.inUnitInterval,
      x.inUnitInterval_iff.2 hportion, hempty]
  | .ok d =>
    obtain ⟨hdataset, ⟨x, hx, hportion⟩, hhost, rfl⟩ := h
    simp [hdatasetTruthy.2 hdataset, hcompare x hx, Quantity.inUnitInterval,
      x.inUnitInterval_iff.2 hportion, hhostTruthy.2 hhost]

theorem exists_comesTo (h : CommandOption.sampleFraction.Admits c.sampleFraction) :
    ∃ r, c.ComesTo r := by
  by_cases hdataset : c.dataset.IsEmpty
  · exact ⟨.error .emptyDataset, hdataset⟩
  rcases h with hnone | hfloat
  · exact ⟨.error (.fraction _), hdataset, hnone, rfl⟩
  obtain ⟨x, hx⟩ : ∃ x, c.sampleFraction = .float x := by simpa using hfloat
  by_cases hportion : x.IsPortion
  · by_cases hhost : c.apiHost.IsEmpty
    · exact ⟨.error .emptyApiHost, hdataset, ⟨x, hx, hportion⟩, hhost⟩
    · exact ⟨.ok c, hdataset, ⟨x, hx, hportion⟩, hhost, rfl⟩
  · exact ⟨.error (.fractionOutOfRange _), hdataset, x, hx, hportion, rfl⟩

theorem check_eq_iff (hdataset : CommandOption.dataset.Admits c.dataset)
    (hfraction : CommandOption.sampleFraction.Admits c.sampleFraction)
    (hhost : CommandOption.apiHost.Admits c.apiHost) {r : Except ConfigurationError Configuration} :
    c.check = r ↔ c.ComesTo r := by
  constructor
  · rintro rfl
    obtain ⟨r, hr⟩ := exists_comesTo hfraction
    rwa [check_of_comesTo hdataset hhost hr]
  · exact check_of_comesTo hdataset hhost

end Configuration

/-! ## Merging -/

namespace Environment

variable {env : Environment} {default s : String}

theorem supplies_iff {names : List String} :
    env.Supplies default names s ↔ (names.findSome? env).getD default = s := by
  induction names with
  | nil =>
    constructor
    · intro h
      cases h
      rfl
    · rintro rfl
      exact .default
  | cons name rest ih =>
    rw [List.findSome?_cons]
    cases hname : env name with
    | some text =>
      constructor
      · intro h
        cases h with
        | set h => exact Option.some.inj (hname.symm.trans h)
        | unset h => cases hname.symm.trans h
      · rintro rfl
        exact .set hname
    | none =>
      rw [← ih]
      constructor
      · intro h
        cases h with
        | set h => cases hname.symm.trans h
        | unset _ hrest => exact hrest
      · exact .unset hname

theorem isOn_iff {word : String} : isOn word = true ↔
    (Text.trimmed word).map Char.toLower ∈ ["1", "true", "yes", "on"] := by
  simp [isOn, or_assoc]

end Environment

namespace Arguments

variable {args : Arguments} {env : Environment}

theorem settles_iff {o : CommandOption} {given : Option Value} {supplied value : Value}
    (hvalues : args.values o = given.toList)
    (hsupplied : ∀ v, o.Reads ((o.variableNames.findSome? env).getD o.default) v ↔ v = supplied) :
    args.Settles env o value ↔ value = given.getD supplied := by
  unfold Settles
  rw [hvalues]
  cases given with
  | none => simp [Environment.supplies_iff, hsupplied]
  | some v => simp [eq_comm]

theorem settles_text_iff {o : CommandOption} (ho : o ≠ .sampleFraction) {given : Option Value}
    {value : Value} (hvalues : args.values o = given.toList) :
    args.Settles env o value ↔
      value = given.getD (.text ((o.variableNames.findSome? env).getD o.default)) :=
  settles_iff hvalues fun v => by rw [CommandOption.Reads, if_neg ho]

theorem settles_fraction_iff {x : Binary64} (hx : env.fraction = .ok x) {value : Value} :
    args.Settles env .sampleFraction value ↔ value = args.sampleFraction.getD (.float x) := by
  have hread : Numeral.readReal? ((env "HONEYCOMB_SAMPLE_FRACTION").getD "1") = some x := by
    unfold Environment.fraction at hx
    cases hread : Numeral.readReal? ((env "HONEYCOMB_SAMPLE_FRACTION").getD "1") with
    | none => simp [hread] at hx
    | some y => simpa [hread] using hx
  refine settles_iff rfl fun v => ?_
  simp [CommandOption.Reads, CommandOption.variableNames, CommandOption.default, hread]

/-- The word of the environment wins, and the option counts where there is none. -/
theorem debug_iff {env : Environment} {value : Value} :
    (∃ b : Bool, value = .bool b ∧ (b = true ↔ args.AsksForDebug env)) ↔
      value = if Environment.isOn ((env "HONEYCOMB_DEBUG").getD "") then .bool true
        else .bool args.verbose := by
  unfold AsksForDebug
  rw [← Environment.isOn_iff]
  cases Environment.isOn ((env "HONEYCOMB_DEBUG").getD "") with
  | true => simp
  | false => simp

theorem isMerged_iff {x : Binary64} (hx : env.fraction = .ok x) (c : Configuration) :
    args.IsMerged env c ↔ c = args.overlay env x := by
  have hservice : ([ "HONEYCOMB_SERVICE_NAME", "OTEL_SERVICE_NAME"].findSome? env).getD "" =
      (env "HONEYCOMB_SERVICE_NAME").getD ((env "OTEL_SERVICE_NAME").getD "") := by
    cases h : env "HONEYCOMB_SERVICE_NAME" <;> simp [h]
  rw [isMerged_iff_settles, settles_text_iff (by decide) rfl, settles_text_iff (by decide) rfl,
    settles_fraction_iff hx, settles_text_iff (by decide) rfl, settles_text_iff (by decide) rfl,
    debug_iff]
  obtain ⟨writekey, dataset, fraction, service, host, debug⟩ := c
  simp [overlay, CommandOption.variableNames, CommandOption.default, hservice]

theorem admits_overlay (h : args.AreGiven) (env : Environment) (x : Binary64) :
    CommandOption.dataset.Admits (args.overlay env x).dataset ∧
      CommandOption.sampleFraction.Admits (args.overlay env x).sampleFraction ∧
      CommandOption.apiHost.Admits (args.overlay env x).apiHost := by
  refine ⟨CommandOption.admits_getD (by decide) fun v hv => ?_, ?_,
    CommandOption.admits_getD (by decide) fun v hv => ?_⟩
  · exact h .dataset v (Option.mem_toList.2 hv)
  · cases hgiven : args.sampleFraction with
    | none => simp [overlay, hgiven, CommandOption.Admits]
    | some v => simpa [overlay, hgiven] using h .sampleFraction v (Option.mem_toList.2 hgiven)
  · exact h .apiHost v (Option.mem_toList.2 hv)

/-- No option takes the place of a variable. -/
def ReplacesNothing (args : Arguments) : Prop :=
  args.verbose = false ∧ ∀ o, o.variableNames ≠ [] → args.values o = []

theorem configuration_of_replacesNothing (h : args.ReplacesNothing) (env : Environment) :
    args.configuration env = Configuration.ofEnvironment env := by
  obtain ⟨hverbose, hvalues⟩ := h
  have hnone : ∀ {given : Option Value}, given.toList = [] → given = none := by simp
  unfold configuration Configuration.ofEnvironment
  rw [hverbose, hnone (hvalues .writekey (by decide)), hnone (hvalues .dataset (by decide)),
    hnone (hvalues .sampleFraction (by decide)), hnone (hvalues .serviceName (by decide)),
    hnone (hvalues .apiHost (by decide))]
  unfold Environment.configuration
  cases env.fraction with
  | error e => rfl
  | ok x => cases h : Environment.isOn ((env "HONEYCOMB_DEBUG").getD "") <;> rfl

/-- What words and environment come to is decided by the merged settings alone. -/
theorem configuration_merges {words : List String} {args : Arguments}
    (hparse : parse words = .ok args) {env : Environment} (hread : env.malformedFraction? = none) :
    (∃ c, (∀ d, args.IsMerged env d ↔ d = c) ∧ ∀ r, args.configuration env = r ↔ c.ComesTo r) ∧
    (args.ReplacesNothing → args.configuration env = Configuration.ofEnvironment env) := by
  obtain ⟨x, hx⟩ := Environment.fraction_of_readable hread
  refine ⟨⟨args.overlay env x, isMerged_iff hx, fun r => ?_⟩,
    fun h => configuration_of_replacesNothing h env⟩
  obtain ⟨hdataset, hfraction, hhost⟩ := admits_overlay (areGiven_of_parse hparse) env x
  rw [configuration_of_fraction args hx]
  exact Configuration.check_eq_iff hdataset hfraction hhost

/-- An empty key is given and an empty service is set, so neither falls back on what is behind
it. -/
theorem configuration_merges_empty :
    let env := Environment.ofList
      [("HONEYCOMB_WRITEKEY", "key"), ("HONEYCOMB_DATASET", "traces"),
        ("HONEYCOMB_SERVICE_NAME", ""), ("OTEL_SERVICE_NAME", "other")]
    ∃ args, parse ["--writekey=", "-v"] = .ok args ∧ env.malformedFraction? = none ∧
      args.configuration env =
        .ok { writekey := .text "", dataset := .text "traces", debug := .bool true } := by
  intro env
  have hparse : parse ["--writekey=", "-v"] =
      .ok { writekey := some (.text ""), verbose := true } := rfl
  have hread : env.malformedFraction? = none := rfl
  obtain ⟨⟨c, hmerged, houtcome⟩, -⟩ := configuration_merges hparse hread
  have hfraction : env.fraction = .ok .one := by decide +kernel
  have hoff : Environment.isOn ((env "HONEYCOMB_DEBUG").getD "") = false := by decide +kernel
  have hc : c = { writekey := .text "", dataset := .text "traces", debug := .bool true } := by
    rw [(isMerged_iff hfraction c).1 ((hmerged c).2 rfl), overlay, hoff]
    rfl
  have hportion : Binary64.one.IsPortion := by
    rw [← Binary64.inUnitInterval_iff]
    decide +kernel
  refine ⟨_, hparse, hread, (houtcome _).2 ?_⟩
  rw [hc]
  refine ⟨?_, ⟨_, rfl, hportion⟩, ?_, rfl⟩ <;> simp [Value.IsEmpty, defaultApiHost]

/-- The text that stands for no values leaves no number to be checked. The setting lies nowhere
between zero and one, and yet it is not refused as one that does not. -/
theorem configuration_fails_without_number :
    ∃ args c, parse ["--dataset", "d", "--sample-fraction=--"] = .ok args ∧
      args.IsMerged (fun _ => none) c ∧ ¬ c.HasFraction ∧
      args.configuration (fun _ => none) = .error (.fraction (.comparison "<=" "list")) := by
  have hparse : parse ["--dataset", "d", "--sample-fraction=--"] =
      .ok { dataset := some (.text "d"), sampleFraction := some (.list []) } := rfl
  have hfraction : Environment.fraction (fun _ => none) = .ok .one := by decide +kernel
  refine ⟨_, _, hparse, (isMerged_iff hfraction _).2 rfl, ?_, ?_⟩
  · rintro ⟨x, hx, -⟩
    cases hx
  · rw [configuration_of_fraction _ hfraction]
    rfl

end Arguments

end SpanExport
