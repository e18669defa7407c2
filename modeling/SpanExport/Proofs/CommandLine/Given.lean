import SpanExport.CommandLine.Arguments

/-!
# What the words can give

The values of an option are read from words, so each is a text, or a number for the fraction, or
the empty list that stands for no values. Nothing else comes out of a command line.
-/

namespace SpanExport

namespace CommandOption

/-- What the words can give for an option. -/
def Admits (o : CommandOption) (value : Value) : Prop :=
  value = .list [] ∨ if o = .sampleFraction then ∃ x, value = .float x else ∃ s, value = .text s

theorem admits_iff {o : CommandOption} (ho : o ≠ .sampleFraction) {value : Value} :
    o.Admits value ↔ value = .list [] ∨ ∃ s, value = .text s := by
  unfold Admits
  rw [if_neg ho]

theorem admits_getD {o : CommandOption} (ho : o ≠ .sampleFraction)
    {given : Option Value} (h : ∀ value ∈ given, o.Admits value) {s : String} :
    o.Admits (given.getD (.text s)) := by
  cases given with
  | none => exact (admits_iff ho).2 (.inr ⟨s, rfl⟩)
  | some value => exact h value rfl

end CommandOption

namespace Arguments

def values (args : Arguments) : CommandOption → List Value
  | .writekey => args.writekey.toList
  | .dataset => args.dataset.toList
  | .serviceName => args.serviceName.toList
  | .sampleFraction => args.sampleFraction.toList
  | .apiHost => args.apiHost.toList
  | .name => [args.name]
  | .note => args.note.toList
  | .attr => args.attributes
  | .help | .verbose | .version => []

def AreGiven (args : Arguments) : Prop := ∀ o, ∀ value ∈ args.values o, o.Admits value

/-- No option was given without a value. -/
def HaveValues (args : Arguments) : Prop := ∀ o, Value.list [] ∉ args.values o

theorem AreGiven.text {args : Arguments} (hargs : args.AreGiven) (hvalues : args.HaveValues)
    {o : CommandOption} (ho : o ≠ .sampleFraction) {value : Value} (h : value ∈ args.values o) :
    ∃ s, value = .text s := by
  rcases (CommandOption.admits_iff ho).1 (hargs o value h) with rfl | htext
  · exact absurd h (hvalues o)
  · exact htext

theorem AreGiven.fraction {args : Arguments} (hargs : args.AreGiven) (hvalues : args.HaveValues)
    {value : Value} (h : value ∈ args.values .sampleFraction) : ∃ x, value = .float x := by
  have hadmits := hargs .sampleFraction value h
  unfold CommandOption.Admits at hadmits
  rw [if_pos rfl] at hadmits
  rcases hadmits with rfl | hfloat
  · exact absurd h (hvalues _)
  · exact hfloat

theorem areGiven_default : AreGiven {} := by
  intro o value h
  cases o with
  | name => exact .inr ⟨_, List.mem_singleton.1 h⟩
  | _ => cases h

/-! ## One option -/

theorem readValue_admits {o : CommandOption} {text : String} {value : Value}
    (h : readValue o text = .ok value) : o.Admits value := by
  unfold readValue at h
  unfold CommandOption.Admits
  split at h
  · cases h
    exact .inl rfl
  · right
    split at h
    · rename_i ho
      rw [if_pos ho]
      split at h
      · cases h
        exact ⟨_, rfl⟩
      · cases h
    · rename_i ho
      rw [if_neg ho]
      cases h
      exact ⟨_, rfl⟩

theorem mem_values_setValue {args : Arguments} {o p : CommandOption} {value other : Value}
    (h : other ∈ (setValue args o value).values p) :
    other ∈ args.values p ∨ o = p ∧ other = value := by
  cases o <;> cases p <;> simp_all [setValue, values]

theorem values_setFlag {args next : Arguments} {o : CommandOption}
    (h : setFlag args o = .ok next) : next.values = args.values := by
  funext p
  cases o <;> cases h <;> cases p <;> rfl

theorem AreGiven.setText {args next : Arguments} (hargs : args.AreGiven) {o : CommandOption}
    {text : String} (h : setText args o text = .ok next) : next.AreGiven := by
  unfold Arguments.setText at h
  cases hv : readValue o text with
  | error cause =>
    rw [hv] at h
    cases h
  | ok value =>
    rw [hv] at h
    cases h
    intro p other hmem
    rcases mem_values_setValue hmem with hold | ⟨rfl, rfl⟩
    · exact hargs p other hold
    · exact readValue_admits hv

theorem AreGiven.setFlags {args next : Arguments} (hargs : args.AreGiven)
    {flags : List CommandOption} (h : flags.foldlM setFlag args = .ok next) : next.AreGiven := by
  induction flags generalizing args with
  | nil =>
    cases h
    exact hargs
  | cons o rest ih =>
    rw [List.foldlM_cons] at h
    cases hf : setFlag args o with
    | error stop =>
      rw [hf] at h
      cases h
    | ok args' =>
      rw [hf] at h
      refine ih ?_ h
      unfold AreGiven
      rw [values_setFlag hf]
      exact hargs

theorem AreGiven.setCluster {args next : Arguments} (hargs : args.AreGiven)
    {flags : List CommandOption} {last : CommandOption} {text : String}
    (h : flags.foldlM setFlag args >>= (Arguments.setText · last text) = .ok next) :
    next.AreGiven := by
  cases hf : flags.foldlM setFlag args with
  | error stop =>
    rw [hf] at h
    cases h
  | ok args' =>
    rw [hf] at h
    exact (hargs.setFlags hf).setText h

/-! ## All words -/

theorem AreGiven.take {args next : Arguments} {extras rest : List String}
    {words : List (String × Word)} (hargs : args.AreGiven)
    (h : take args extras words = .ok (next, rest)) : next.AreGiven := by
  fun_induction Arguments.take args extras words with
  | case1 =>
    cases h
    exact hargs
  | case2 | case3 | case4 =>
    -- A word that is no option changes nothing.
    rename_i ih
    exact ih hargs h
  | case7 =>
    rename_i hflags ih
    exact ih (hargs.setFlags hflags) h
  | case9 | case11 =>
    rename_i hcluster ih
    exact ih (hargs.setCluster hcluster) h
  | case5 | case6 | case8 | case10 | case12 => cases h

theorem areGiven_of_parse {words : List String} {args : Arguments}
    (h : parse words = .ok args) : args.AreGiven := by
  unfold parse at h
  split at h
  · cases h
  · split at h
    · cases h
    · rename_i ht
      cases h
      exact areGiven_default.take ht
    · cases h

end Arguments

end SpanExport
