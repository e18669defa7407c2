import SpanExport.CommandLine.Arguments

/-!
# Options over the environment

An option that is given takes the place of the variables behind it. One of them is read all the
same: the fraction of the environment must be a number even where an option replaces it.
`configuration_eq_iff` says that nothing else of a replaced variable shows.
-/

namespace SpanExport

/-! ## The fraction of the environment -/

namespace Environment

/-- The fraction that is set, if it is no number. -/
def malformedFraction? (env : Environment) : Option String :=
  (env "HONEYCOMB_SAMPLE_FRACTION").filter fun raw => (Numeral.readReal? raw).isNone

theorem readReal?_one : (Numeral.readReal? "1").isSome = true := by decide

theorem fraction_of_malformed {env : Environment} {raw : String}
    (h : env.malformedFraction? = some raw) :
    env.fraction = .error (.fractionNotANumber raw) := by
  unfold malformedFraction? at h
  obtain ⟨hraw, hnone⟩ := Option.filter_eq_some_iff.1 h
  have hread : Numeral.readReal? raw = none := Option.isNone_iff_eq_none.1 hnone
  unfold fraction
  simp [hraw, hread]

theorem fraction_of_readable {env : Environment} (h : env.malformedFraction? = none) :
    ∃ x, env.fraction = .ok x := by
  have hread : (Numeral.readReal? ((env "HONEYCOMB_SAMPLE_FRACTION").getD "1")).isSome = true := by
    cases hraw : env "HONEYCOMB_SAMPLE_FRACTION" with
    | none => exact readReal?_one
    | some raw => simpa [malformedFraction?, hraw, Option.filter_eq_none_iff,
        Option.isSome_iff_ne_none] using h
  obtain ⟨x, hx⟩ := Option.isSome_iff_exists.1 hread
  refine ⟨x, ?_⟩
  unfold fraction
  simp [hx]

end Environment

/-! ## What is checked -/

theorem Configuration.check_ne_fractionNotANumber (c : Configuration) (raw : String) :
    c.check ≠ .error (.fractionNotANumber raw) := by
  unfold check
  split
  · simp
  · split
    · simp
    · split
      · simp
      · split <;> simp

namespace Arguments

/-- The variables behind the options that were given. -/
def overridden (args : Arguments) : List String :=
  [(args.writekey, "HONEYCOMB_WRITEKEY"), (args.dataset, "HONEYCOMB_DATASET"),
    (args.sampleFraction, "HONEYCOMB_SAMPLE_FRACTION"),
    (args.serviceName, "HONEYCOMB_SERVICE_NAME"), (args.serviceName, "OTEL_SERVICE_NAME"),
    (args.apiHost, "HONEYCOMB_API_HOST")].filterMap fun (value, name) => value.map fun _ => name

/-- The options over the settings of the environment, and the fraction that was read there. -/
def overlay (args : Arguments) (env : Environment) (fraction : Binary64) : Configuration where
  writekey := args.writekey.getD (.text ((env "HONEYCOMB_WRITEKEY").getD ""))
  dataset := args.dataset.getD (.text ((env "HONEYCOMB_DATASET").getD ""))
  sampleFraction := args.sampleFraction.getD (.float fraction)
  serviceName := args.serviceName.getD
    (.text ((env "HONEYCOMB_SERVICE_NAME").getD ((env "OTEL_SERVICE_NAME").getD "")))
  apiHost := args.apiHost.getD (.text ((env "HONEYCOMB_API_HOST").getD defaultApiHost))
  debug :=
    if Environment.isOn ((env "HONEYCOMB_DEBUG").getD "") then .bool true else .bool args.verbose

theorem configuration_of_malformed (args : Arguments) {env : Environment} {raw : String}
    (h : env.malformedFraction? = some raw) :
    args.configuration env = .error (.fractionNotANumber raw) := by
  unfold configuration Environment.configuration
  rw [Environment.fraction_of_malformed h]
  rfl

theorem configuration_of_fraction (args : Arguments) {env : Environment} {x : Binary64}
    (h : env.fraction = .ok x) :
    args.configuration env = (args.overlay env x).check := by
  unfold configuration Environment.configuration overlay
  rw [h]
  simp only [Bind.bind, Except.bind, Pure.pure, Except.pure, Value.isTruthy]
  congr 2
  split <;> simp [*]

/-! ## Two environments -/

variable {args : Arguments} {env env' : Environment}

/-- The environments are the same but for the variables that the options replace. -/
def SameBeyond (args : Arguments) (env env' : Environment) : Prop :=
  ∀ name, name ∉ args.overridden → env name = env' name

theorem overlay_eq (h : args.SameBeyond env env') (x : Binary64) :
    args.overlay env x = args.overlay env' x := by
  have hdebug : env "HONEYCOMB_DEBUG" = env' "HONEYCOMB_DEBUG" := h _ (by simp [overridden])
  have hwritekey : args.writekey = none → env "HONEYCOMB_WRITEKEY" = env' "HONEYCOMB_WRITEKEY" :=
    fun hn => h _ (by simp [overridden, hn])
  have hdataset : args.dataset = none → env "HONEYCOMB_DATASET" = env' "HONEYCOMB_DATASET" :=
    fun hn => h _ (by simp [overridden, hn])
  have hservice : args.serviceName = none →
      env "HONEYCOMB_SERVICE_NAME" = env' "HONEYCOMB_SERVICE_NAME" ∧
        env "OTEL_SERVICE_NAME" = env' "OTEL_SERVICE_NAME" :=
    fun hn => ⟨h _ (by simp [overridden, hn]), h _ (by simp [overridden, hn])⟩
  have hhost : args.apiHost = none → env "HONEYCOMB_API_HOST" = env' "HONEYCOMB_API_HOST" :=
    fun hn => h _ (by simp [overridden, hn])
  unfold overlay
  rw [hdebug]
  congr 1
  · cases hv : args.writekey with
    | none => simp [hwritekey hv]
    | some v => rfl
  · cases hv : args.dataset with
    | none => simp [hdataset hv]
    | some v => rfl
  · cases hv : args.serviceName with
    | none => simp [hservice hv]
    | some v => rfl
  · cases hv : args.apiHost with
    | none => simp [hhost hv]
    | some v => rfl

theorem fraction_eq (h : args.SameBeyond env env') (hn : args.sampleFraction = none) :
    env.fraction = env'.fraction := by
  unfold Environment.fraction
  rw [h "HONEYCOMB_SAMPLE_FRACTION" (by simp [overridden, hn])]

theorem overlay_of_given {x : Binary64} (h : args.sampleFraction ≠ none) (y : Binary64) :
    args.overlay env x = args.overlay env y := by
  obtain ⟨v, hv⟩ := Option.ne_none_iff_exists'.1 h
  unfold overlay
  rw [hv]
  rfl

theorem configuration_eq_of_readable (h : args.SameBeyond env env')
    (hr : env.malformedFraction? = none) (hr' : env'.malformedFraction? = none) :
    args.configuration env = args.configuration env' := by
  obtain ⟨x, hx⟩ := Environment.fraction_of_readable hr
  obtain ⟨y, hy⟩ := Environment.fraction_of_readable hr'
  rw [configuration_of_fraction args hx, configuration_of_fraction args hy, overlay_eq h x]
  by_cases hn : args.sampleFraction = none
  · have hxy : x = y := by
      rw [fraction_eq h hn, hy] at hx
      exact (Except.ok.inj hx).symm
    rw [hxy]
  · rw [overlay_of_given hn y]

theorem configuration_ne_of_readable (hr : env.malformedFraction? = none) (raw : String) :
    args.configuration env ≠ .error (.fractionNotANumber raw) := by
  obtain ⟨x, hx⟩ := Environment.fraction_of_readable hr
  rw [configuration_of_fraction args hx]
  exact Configuration.check_ne_fractionNotANumber _ raw

/-- Two environments that differ in replaced variables alone give the same configuration or the
same error just when they agree on a fraction that is no number: neither has one, or both have
the same text. -/
theorem configuration_eq_iff (h : args.SameBeyond env env') :
    args.configuration env = args.configuration env' ↔
      env.malformedFraction? = env'.malformedFraction? := by
  cases hm : env.malformedFraction? with
  | none =>
    cases hm' : env'.malformedFraction? with
    | none => simp [configuration_eq_of_readable h hm hm']
    | some raw =>
      rw [configuration_of_malformed args hm']
      simp [configuration_ne_of_readable hm raw]
  | some raw =>
    rw [configuration_of_malformed args hm]
    cases hm' : env'.malformedFraction? with
    | none => simp [(configuration_ne_of_readable hm' raw).symm]
    | some raw' =>
      rw [configuration_of_malformed args hm']
      simp

def givenFraction : Arguments :=
  { dataset := some (.text "traces"), sampleFraction := some (.float .one) }

/-- The options replace both variables, and yet one of them is reported. -/
theorem configuration_reports_replaced :
    let empty : Environment := fun _ => none
    let set := Environment.ofList
      [("HONEYCOMB_DATASET", "other"), ("HONEYCOMB_SAMPLE_FRACTION", "all")]
    givenFraction.SameBeyond set empty ∧
    givenFraction.configuration set = .error (.fractionNotANumber "all") ∧
    (∃ c, givenFraction.configuration empty = .ok c) ∧
    givenFraction.configuration set ≠ givenFraction.configuration empty := by
  intro empty set
  have hsame : givenFraction.SameBeyond set empty := by
    intro name hn
    simp only [overridden, givenFraction, List.filterMap_cons, List.filterMap_nil, Option.map_none,
      Option.map_some, List.mem_cons, List.not_mem_nil, or_false, not_or] at hn
    simp [set, empty, Environment.ofList, List.lookup_cons, beq_false_of_ne hn.1,
      beq_false_of_ne hn.2]
  have hset : set.malformedFraction? = some "all" := by decide
  have hempty : empty.malformedFraction? = none := rfl
  have hone : Binary64.one.inUnitInterval = true := by decide +kernel
  obtain ⟨x, hx⟩ := Environment.fraction_of_readable hempty
  have hcheck : (givenFraction.overlay empty x).check = .ok (givenFraction.overlay empty x) := by
    simp [Configuration.check, overlay, givenFraction, Value.comparand, Value.quantity?,
      Quantity.inUnitInterval, Value.isTruthy, defaultApiHost, empty, hone]
  refine ⟨hsame, configuration_of_malformed _ hset,
    ⟨_, (configuration_of_fraction givenFraction hx).trans hcheck⟩, ?_⟩
  rw [Ne, configuration_eq_iff hsame, hset, hempty]
  simp

end Arguments

end SpanExport
