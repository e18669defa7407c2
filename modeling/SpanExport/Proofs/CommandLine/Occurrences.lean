import Mathlib.Data.List.Nodup
import SpanExport.CommandLine.Arguments
import SpanExport.Proofs.CommandLine.Attributes

/-!
# Options one after the other

A command line is written option by option: a spelling, which may be the beginning of the long
name, and a value after an equals sign or in the next word. `parse_occurrences` says that such a
line is always understood, and what it gives: the last value of an option, all attributes in
order, and the switch if it occurs.
-/

namespace SpanExport

/-! ## Spellings -/

namespace CommandOption

/-- The text is the letter of the option after a dash, or a beginning of its long name with which
no other long name begins. -/
def IsSpelled (o : CommandOption) (s : String) : Prop :=
  o.short? = some s ∨
    s.toList <+: o.long.toList ∧ ∀ p ∈ all, s.toList <+: p.long.toList → p = o

instance (o : CommandOption) (s : String) : Decidable (o.IsSpelled s) :=
  inferInstanceAs (Decidable (_ ∨ _))

theorem mem_all (o : CommandOption) : o ∈ all := by
  cases o <;> decide

theorem nodup_all : all.Nodup := by decide

theorem eq_of_spelling : ∀ o ∈ all, ∀ p ∈ all, ∀ s ∈ o.spellings, s ∈ p.spellings → p = o := by
  decide +kernel

theorem equals_notMem_spelling : ∀ o ∈ all, ∀ s ∈ o.spellings, '=' ∉ s.toList := by
  decide +kernel

theorem dashes_of_spelling :
    ∀ o ∈ all, ['-', '-'] <+: o.long.toList ∧ ∀ s ∈ o.short?, ¬ ['-', '-'] <+: s.toList := by
  decide +kernel

variable {o : CommandOption} {s : String}

theorem long_mem_spellings (o : CommandOption) : o.long ∈ o.spellings := by simp [spellings]

theorem mem_spellings_iff : s ∈ o.spellings ↔ o.short? = some s ∨ s = o.long := by
  simp [spellings]

theorem ofSpelling?_eq_some (h : s ∈ o.spellings) : ofSpelling? s = some o := by
  cases hf : ofSpelling? s with
  | none =>
    have hno := List.find?_eq_none.1 hf o (mem_all o)
    exact absurd h (by simpa using hno)
  | some p =>
    have hp : s ∈ p.spellings := by simpa using List.find?_some hf
    rw [eq_of_spelling o (mem_all o) p (mem_all p) s h hp]

theorem ofSpelling?_of_equals (h : '=' ∈ s.toList) : ofSpelling? s = none := by
  apply List.find?_eq_none.2
  intro p hp hmem
  exact equals_notMem_spelling p hp s (by simpa using hmem) h

namespace IsSpelled

theorem equals_notMem (h : o.IsSpelled s) : '=' ∉ s.toList := by
  rcases h with hshort | ⟨hstart, -⟩
  · exact equals_notMem_spelling o (mem_all o) s (mem_spellings_iff.2 (.inl hshort))
  · intro hmem
    exact equals_notMem_spelling o (mem_all o) o.long o.long_mem_spellings (hstart.subset hmem)

theorem dashes (hstart : s.toList <+: o.long.toList)
    (hunique : ∀ p ∈ all, s.toList <+: p.long.toList → p = o) :
    ∃ c cs, s.toList = '-' :: '-' :: c :: cs := by
  have hlonger : ¬ s.toList <+: ['-', '-'] := by
    intro hshort
    have hhelp := hunique .help (mem_all _) (hshort.trans (dashes_of_spelling .help (mem_all _)).1)
    have hname := hunique .name (mem_all _) (hshort.trans (dashes_of_spelling .name (mem_all _)).1)
    rw [← hname] at hhelp
    cases hhelp
  obtain ⟨rest, hrest⟩ := (dashes_of_spelling o (mem_all o)).1
  rcases List.prefix_or_prefix_of_prefix hstart ⟨rest, hrest⟩ with hshort | ⟨tail, htail⟩
  · exact absurd hshort hlonger
  · cases tail with
    | nil =>
      rw [← htail] at hlonger
      exact absurd (List.prefix_refl _) hlonger
    | cons c cs => exact ⟨c, cs, htail.symm⟩

theorem ofSpelling?_eq (h : o.IsSpelled s) : ∀ p ∈ ofSpelling? s, p = o := by
  intro p hp
  have hmem : s ∈ p.spellings := by simpa using List.find?_some hp
  rcases h with hshort | ⟨hstart, hunique⟩
  · exact eq_of_spelling o (mem_all o) p (mem_all p) s (mem_spellings_iff.2 (.inl hshort)) hmem
  · rcases mem_spellings_iff.1 hmem with hp | rfl
    · obtain ⟨c, cs, hs⟩ := dashes hstart hunique
      refine absurd ?_ ((dashes_of_spelling p (mem_all p)).2 s hp)
      rw [hs]
      exact ⟨c :: cs, rfl⟩
    · exact hunique p (mem_all p) (List.prefix_refl _)

theorem filter_long (hstart : s.toList <+: o.long.toList)
    (hunique : ∀ p ∈ all, s.toList <+: p.long.toList → p = o) :
    (all.filter fun p => s.toList.isPrefixOf p.long.toList) = [o] := by
  have hiff : ∀ p ∈ all, (s.toList.isPrefixOf p.long.toList) = (p == o) := by
    intro p hp
    rw [Bool.eq_iff_iff, List.isPrefixOf_iff_prefix, beq_iff_eq]
    exact ⟨hunique p hp, fun heq => heq ▸ hstart⟩
  rw [List.filter_congr hiff, List.filter_beq, List.count_eq_one_of_mem nodup_all (mem_all o)]
  rfl

end IsSpelled

end CommandOption

/-! ## Words -/

namespace Word

open CommandOption

variable {o : CommandOption} {s value : String}

theorem toList_attached (s value : String) :
    (s ++ "=" ++ value).toList = s.toList ++ '=' :: value.toList := by
  simp

theorem splitAtEquals?_attached (h : o.IsSpelled s) (value : String) :
    splitAtEquals? (s ++ "=" ++ value) = some (s, value) := by
  unfold splitAtEquals?
  rw [toList_attached, Attribute.splitAtEquals?_append h.equals_notMem]
  simp

theorem splitAtEquals?_spelled (h : o.IsSpelled s) : splitAtEquals? s = none := by
  unfold splitAtEquals?
  rw [Attribute.splitAtEquals?_eq_none.2 h.equals_notMem]
  rfl

theorem head_of_spelled (h : o.IsSpelled s) : ∃ c cs, s.toList = '-' :: c :: cs := by
  rcases h with hshort | ⟨hstart, hunique⟩
  · revert hshort
    unfold CommandOption.short?
    cases o.letter? with
    | none => simp
    | some c =>
      intro hs
      obtain rfl := Option.some.inj hs
      exact ⟨c, [], by simp⟩
  · obtain ⟨c, cs, hs⟩ := IsSpelled.dashes hstart hunique
    exact ⟨'-', c :: cs, hs⟩

/-- A word that begins with a spelling is the option that is meant, whether the name is in full or
a beginning of it. -/
theorem classify_of_start {word : String} {value? : Option String} (h : o.IsSpelled s)
    {c : Char} {cs : List Char} (hword : word.toList = '-' :: c :: cs)
    (hfull : inFull? word = (ofSpelling? s).map fun p => .option p (p.long ≠ s) value?)
    (habbreviated : ∀ c cs, s.toList = '-' :: '-' :: c :: cs → abbreviated word =
      (all.filter fun p => s.toList.isPrefixOf p.long.toList).map fun p => .option p false value?) :
    ∃ isShort, classify word = .ok (.option o isShort value?) := by
  unfold classify
  rw [hword]
  simp only
  rw [hfull]
  cases hf : ofSpelling? s with
  | some p =>
    obtain rfl := h.ofSpelling?_eq p hf
    exact ⟨_, rfl⟩
  | none =>
    rcases h with hshort | ⟨hstart, hunique⟩
    · rw [ofSpelling?_eq_some (mem_spellings_iff.2 (.inl hshort))] at hf
      cases hf
    · obtain ⟨c, cs, hs⟩ := IsSpelled.dashes hstart hunique
      rw [habbreviated c cs hs, IsSpelled.filter_long hstart hunique]
      exact ⟨false, rfl⟩

theorem classify_spelled (h : o.IsSpelled s) :
    ∃ isShort, classify s = .ok (.option o isShort none) := by
  obtain ⟨c, cs, hs⟩ := head_of_spelled h
  refine classify_of_start h hs ?_ fun c cs hs => ?_
  · unfold inFull?
    rw [splitAtEquals?_spelled h]
    cases ofSpelling? s <;> rfl
  · unfold abbreviated longMatches
    rw [hs, splitAtEquals?_spelled h]
    simp only [hs]

theorem classify_attached (h : o.IsSpelled s) (value : String) :
    ∃ isShort, classify (s ++ "=" ++ value) = .ok (.option o isShort (some value)) := by
  obtain ⟨c, cs, hs⟩ := head_of_spelled h
  have hword : (s ++ "=" ++ value).toList = '-' :: c :: (cs ++ '=' :: value.toList) := by
    rw [toList_attached, hs]
    rfl
  refine classify_of_start h hword ?_ fun c cs hs => ?_
  · have hequals : '=' ∈ (s ++ "=" ++ value).toList := by simp
    unfold inFull?
    rw [ofSpelling?_of_equals hequals, splitAtEquals?_attached h]
  · unfold abbreviated longMatches
    rw [splitAtEquals?_attached h, toList_attached, hs]
    simp only [List.cons_append, hs]

theorem ne_terminator (h : o.IsSpelled s) : s ≠ "--" := by
  rintro rfl
  rcases h with hshort | ⟨hstart, hunique⟩
  · exact (dashes_of_spelling o (mem_all o)).2 _ hshort (List.prefix_refl _)
  · obtain ⟨c, cs, hs⟩ := IsSpelled.dashes hstart hunique
    cases hs

theorem attached_ne_terminator (s value : String) : s ++ "=" ++ value ≠ "--" := by
  intro h
  have hequals : '=' ∈ "--".toList := by
    rw [← h, toList_attached]
    simp
  revert hequals
  decide

theorem operand_ne_terminator (h : value.toList.head? ≠ some '-') : value ≠ "--" := by
  rintro rfl
  exact h rfl

theorem classify_operand (h : value.toList.head? ≠ some '-') : classify value = .ok .operand := by
  unfold classify
  split
  · rename_i hs
    rw [hs] at h
    exact absurd rfl h
  · rfl

theorem classifyAll_cons {word : String} {kind : Word} {rest : List String}
    {kinds : List (String × Word)} (hword : word ≠ "--") (hkind : classify word = .ok kind)
    (hrest : classifyAll rest = .ok kinds) :
    classifyAll (word :: rest) = .ok ((word, kind) :: kinds) := by
  unfold classifyAll
  rw [if_neg hword, hkind]
  simp only
  rw [hrest]
  rfl

end Word

/-! ## Occurrences -/

/-- The switch, or an option with its value in the same word or in the next. -/
inductive Occurrence where
  | switch (spelling : String)
  | attached (o : CommandOption) (spelling value : String)
  | separate (o : CommandOption) (spelling value : String)

namespace Occurrence

def words : Occurrence → List String
  | .switch spelling => [spelling]
  | .attached _ spelling value => [spelling ++ "=" ++ value]
  | .separate _ spelling value => [spelling, value]

def option : Occurrence → CommandOption
  | .switch _ => .verbose
  | .attached o _ _ | .separate o _ _ => o

def value? : Occurrence → Option String
  | .switch _ => none
  | .attached _ _ value | .separate _ _ value => some value

/-- The option takes a value, and a fraction is a number. -/
def Takes (o : CommandOption) (value : String) : Prop :=
  o.takesValue = true ∧ (o = .sampleFraction → (Numeral.readReal? value).isSome = true)

instance (o : CommandOption) (value : String) : Decidable (Takes o value) :=
  inferInstanceAs (Decidable (_ ∧ _))

/-- The option is spelled as it may be and has a value that it takes. The text that ends all options
is no value, and a word of its own does not begin with a dash. -/
def IsValid : Occurrence → Prop
  | .switch spelling => CommandOption.verbose.IsSpelled spelling
  | .attached o spelling value => o.IsSpelled spelling ∧ Takes o value ∧ value ≠ "--"
  | .separate o spelling value =>
    o.IsSpelled spelling ∧ Takes o value ∧ value.toList.head? ≠ some '-'

instance : DecidablePred IsValid
  | .switch _ => inferInstanceAs (Decidable (CommandOption.IsSpelled _ _))
  | .attached .. | .separate .. => inferInstanceAs (Decidable (_ ∧ _))

/-- The values that an option is given, one after the other. -/
def valuesOf (o : CommandOption) (xs : List Occurrence) : List String :=
  xs.filterMap fun x => if x.option = o then x.value? else none

def lastValue? (o : CommandOption) (xs : List Occurrence) : Option String :=
  (valuesOf o xs).getLast?

end Occurrence

namespace Arguments

open Occurrence

/-- Of all options the last value counts, and attributes add up. -/
def ofOccurrences (xs : List Occurrence) : Arguments where
  writekey := (lastValue? .writekey xs).map .text
  dataset := (lastValue? .dataset xs).map .text
  serviceName := (lastValue? .serviceName xs).map .text
  sampleFraction := ((lastValue? .sampleFraction xs).bind Numeral.readReal?).map .float
  apiHost := (lastValue? .apiHost xs).map .text
  name := .text ((lastValue? .name xs).getD "honeytrace-test")
  note := (lastValue? .note xs).map .text
  attributes := (valuesOf .attr xs).map .text
  verbose := xs.any fun x => x.option = .verbose

variable {xs : List Occurrence} {o : CommandOption} {spelling value : String}

theorem valuesOf_append_singleton (o : CommandOption) (xs : List Occurrence) (x : Occurrence) :
    valuesOf o (xs ++ [x]) = valuesOf o xs ++ if x.option = o then x.value?.toList else [] := by
  unfold valuesOf
  rw [List.filterMap_append]
  by_cases h : x.option = o
  · cases x <;> simp [h, Occurrence.value?]
  · simp [h]

theorem setFlag_ofOccurrences (xs : List Occurrence) (spelling : String) :
    setFlag (ofOccurrences xs) .verbose = .ok (ofOccurrences (xs ++ [.switch spelling])) := by
  simp [setFlag, ofOccurrences, lastValue?, valuesOf_append_singleton, Occurrence.option]

theorem setText_ofOccurrences {x : Occurrence} (hoption : x.option = o)
    (hvalue : x.value? = some value) (htakes : Takes o value) (hdashes : value ≠ "--") :
    setText (ofOccurrences xs) o value = .ok (ofOccurrences (xs ++ [x])) := by
  obtain ⟨htakesValue, hfraction⟩ := htakes
  have hread : readValue o value =
      .ok (if o = .sampleFraction then ((Numeral.readReal? value).map .float).getD .null
        else .text value) := by
    unfold readValue
    rw [if_neg hdashes]
    by_cases ho : o = .sampleFraction
    · obtain ⟨number, hnumber⟩ := Option.isSome_iff_exists.1 (hfraction ho)
      simp [ho, hnumber]
    · simp [ho]
  unfold setText
  rw [hread]
  cases o with
  | help | verbose | version => cases htakesValue
  | sampleFraction =>
    obtain ⟨number, hnumber⟩ := Option.isSome_iff_exists.1 (hfraction rfl)
    simp [setValue, ofOccurrences, lastValue?, valuesOf_append_singleton, hoption, hvalue, hnumber]
  | _ => simp [setValue, ofOccurrences, lastValue?, valuesOf_append_singleton, hoption, hvalue]

/-! ## All words -/

/-- One occurrence is classified and taken without regard to what follows it. -/
theorem take_occurrence (xs : List Occurrence) {x : Occurrence} (h : x.IsValid)
    {rest : List String} {kinds : List (String × Word)}
    (hrest : Word.classifyAll rest = .ok kinds) :
    ∃ first, Word.classifyAll (x.words ++ rest) = .ok (first ++ kinds) ∧
      take (ofOccurrences xs) [] (first ++ kinds) = take (ofOccurrences (xs ++ [x])) [] kinds := by
  cases x with
  | switch spelling =>
    obtain ⟨isShort, hkind⟩ := Word.classify_spelled h
    have hword := Word.ne_terminator h
    refine ⟨[(spelling, .option .verbose isShort none)],
      Word.classifyAll_cons hword hkind hrest, ?_⟩
    have hflags : [CommandOption.verbose].foldlM setFlag (ofOccurrences xs) =
        .ok (ofOccurrences (xs ++ [.switch spelling])) := by
      rw [List.foldlM_cons, setFlag_ofOccurrences xs spelling]
      rfl
    have hcluster : clusterOf .verbose isShort none = .ok ⟨[.verbose], none⟩ := rfl
    rw [List.singleton_append, take]
    simp only [hcluster, hflags]
  | attached o spelling value =>
    obtain ⟨hspelled, htakes, hdashes⟩ := h
    obtain ⟨isShort, hkind⟩ := Word.classify_attached hspelled value
    have hword := Word.attached_ne_terminator spelling value
    refine ⟨[(spelling ++ "=" ++ value, .option o isShort (some value))],
      Word.classifyAll_cons hword hkind hrest, ?_⟩
    have hset : setText (ofOccurrences xs) o value =
        .ok (ofOccurrences (xs ++ [.attached o spelling value])) :=
      setText_ofOccurrences rfl rfl htakes hdashes
    have hcluster : clusterOf o isShort (some value) = .ok ⟨[], some (o, some value)⟩ := by
      simp [clusterOf, htakes.1]
    rw [List.singleton_append, take]
    simp only [hcluster, List.foldlM_nil]
    rw [pure_bind, hset]
  | separate o spelling value =>
    obtain ⟨hspelled, htakes, hdash⟩ := h
    obtain ⟨isShort, hkind⟩ := Word.classify_spelled hspelled
    have hword := Word.ne_terminator hspelled
    have hvalue := Word.operand_ne_terminator hdash
    refine ⟨[(spelling, .option o isShort none), (value, .operand)],
      Word.classifyAll_cons hword hkind
        (Word.classifyAll_cons hvalue (Word.classify_operand hdash) hrest), ?_⟩
    have hset : setText (ofOccurrences xs) o value =
        .ok (ofOccurrences (xs ++ [.separate o spelling value])) :=
      setText_ofOccurrences rfl rfl htakes hvalue
    have hcluster : clusterOf o isShort none = .ok ⟨[], some (o, none)⟩ := by
      simp [clusterOf, cluster, htakes.1]
    rw [List.cons_append, List.singleton_append, take]
    simp only [hcluster, List.foldlM_nil]
    rw [pure_bind, hset]

theorem take_occurrences (before : List Occurrence) {xs : List Occurrence}
    (h : ∀ x ∈ xs, x.IsValid) :
    ∃ kinds, Word.classifyAll (xs.flatMap Occurrence.words) = .ok kinds ∧
      take (ofOccurrences before) [] kinds = .ok (ofOccurrences (before ++ xs), []) := by
  -- What came before is in the arguments already, so the induction carries it along.
  induction xs generalizing before with
  | nil => exact ⟨[], rfl, by rw [List.append_nil]; rfl⟩
  | cons x xs ih =>
    rw [List.forall_mem_cons] at h
    obtain ⟨kinds, hkinds, htake⟩ := ih (before ++ [x]) h.2
    obtain ⟨first, hfirst, hstep⟩ := take_occurrence before h.1 hkinds
    refine ⟨first ++ kinds, hfirst, ?_⟩
    rw [hstep, htake, List.append_assoc, List.singleton_append]

theorem parse_eq_ofOccurrences {xs : List Occurrence} (h : ∀ x ∈ xs, x.IsValid) :
    parse (xs.flatMap Occurrence.words) = .ok (ofOccurrences xs) := by
  obtain ⟨kinds, hkinds, htake⟩ := take_occurrences [] h
  have hnone : ofOccurrences [] = {} := rfl
  rw [hnone, List.nil_append] at htake
  unfold parse
  rw [hkinds]
  simp only
  rw [htake]

/-! ## The order of options -/

theorem valuesOf_swap (o : CommandOption) (before after : List Occurrence) {x y : Occurrence}
    (h : x.option ≠ y.option) :
    valuesOf o (before ++ y :: x :: after) = valuesOf o (before ++ x :: y :: after) := by
  unfold valuesOf
  rw [List.filterMap_append, List.filterMap_append]
  simp only [List.filterMap_cons]
  by_cases hx : x.option = o
  · rw [if_pos hx, if_neg fun hy => h (hx.trans hy.symm)]
  · rw [if_neg hx]

theorem ofOccurrences_swap (before after : List Occurrence) {x y : Occurrence}
    (h : x.option ≠ y.option) :
    ofOccurrences (before ++ y :: x :: after) = ofOccurrences (before ++ x :: y :: after) := by
  have hverbose : (before ++ y :: x :: after).any (fun x => x.option = .verbose) =
      (before ++ x :: y :: after).any fun x => x.option = .verbose := by
    simp only [List.any_append, List.any_cons]
    rw [Bool.or_left_comm (decide (y.option = .verbose))]
  unfold ofOccurrences lastValue?
  simp only [valuesOf_swap _ before after h, hverbose]

theorem valuesOf_eq_of_perm {xs ys : List Occurrence} (h : xs.Perm ys) {o : CommandOption}
    (honce : (valuesOf o ys).length ≤ 1) : valuesOf o xs = valuesOf o ys := by
  have hperm : (valuesOf o xs).Perm (valuesOf o ys) := h.filterMap _
  match hvalues : valuesOf o ys, honce with
  | [], _ => exact List.perm_nil.1 (hvalues ▸ hperm)
  | [value], _ => exact List.perm_singleton.1 (hvalues ▸ hperm)

theorem ofOccurrences_eq_of_perm {xs ys : List Occurrence} (h : xs.Perm ys)
    (honce : ∀ o, (valuesOf o ys).length ≤ 1) : ofOccurrences xs = ofOccurrences ys := by
  unfold ofOccurrences lastValue?
  simp only [valuesOf_eq_of_perm h (honce _), h.any_eq]

/-- Options that are spelled as they may be, with values that they take, are always understood. Each
member is the last value of its option or its default, the attributes are all there in order, and
the switch is on if it occurs. So two neighbours of different options may change places. -/
theorem parse_occurrences {xs : List Occurrence} (h : ∀ x ∈ xs, x.IsValid) :
    parse (xs.flatMap Occurrence.words) = .ok (ofOccurrences xs) ∧
      ∀ before x y after, xs = before ++ x :: y :: after → x.option ≠ y.option →
        parse ((before ++ y :: x :: after).flatMap Occurrence.words) =
          parse (xs.flatMap Occurrence.words) := by
  refine ⟨parse_eq_ofOccurrences h, ?_⟩
  rintro before x y after rfl hne
  have hswapped : ∀ z ∈ before ++ y :: x :: after, z.IsValid := by
    intro z hz
    refine h z ?_
    simp only [List.mem_append, List.mem_cons] at hz ⊢
    tauto
  rw [parse_eq_ofOccurrences h, parse_eq_ofOccurrences hswapped, ofOccurrences_swap _ _ hne]

def repeatedOptions : List Occurrence :=
  [.attached .dataset "--data" "a = b", .separate .name "-n" "", .switch "--verb",
    .attached .attr "--attr" "key=value", .separate .sampleFraction "--sam" " 2_5e-2 ",
    .attached .dataset "--dataset" "--name=x", .separate .attr "--at" "plain"]

/-- The second dataset looks like an option and counts all the same, and a name may be empty. -/
theorem parse_repeatedOptions :
    (∀ x ∈ repeatedOptions, x.IsValid) ∧
    parse ["--data=a = b", "-n", "", "--verb", "--attr=key=value", "--sam", " 2_5e-2 ",
        "--dataset=--name=x", "--at", "plain"] =
      .ok { dataset := some (.text "--name=x"), name := .text "",
            sampleFraction := (Numeral.readReal? "0.25").map .float,
            attributes := [.text "key=value", .text "plain"], verbose := true } ∧
    parse ["--data=a = b", "--verb", "-n", "", "--attr=key=value", "--sam", " 2_5e-2 ",
        "--dataset=--name=x", "--at", "plain"] =
      parse (repeatedOptions.flatMap Occurrence.words) := by
  have hvalid : ∀ x ∈ repeatedOptions, x.IsValid := by decide +kernel
  obtain ⟨hparse, hswap⟩ := parse_occurrences hvalid
  have hfraction : Numeral.readReal? " 2_5e-2 " = Numeral.readReal? "0.25" := by decide +kernel
  refine ⟨hvalid, hparse.trans ?_, ?_⟩
  · simp [ofOccurrences, repeatedOptions, lastValue?, valuesOf, Occurrence.option,
      Occurrence.value?, hfraction]
  · exact hswap [.attached .dataset "--data" "a = b"] _ _ _ rfl (by decide)

end Arguments

end SpanExport
