import SpanExport.Proofs.CommandLine.Attributes
import SpanExport.Proofs.Value.Mapping

/-!
# Texts of attributes

The first text without a key ends the reading of them all. If each has one, a key stands where it was
given first and has the value that was given last, so that texts may be read in parts.
-/

namespace SpanExport.Attribute

/-! ## Keys and what stands after them -/

/-- What stands before the first equals sign. -/
def keyOf (text : String) : String := String.ofList (text.toList.takeWhile (· ≠ '='))

/-- What stands after the first equals sign. -/
def rawOf (text : String) : String := String.ofList ((text.toList.dropWhile (· ≠ '=')).drop 1)

theorem splitAtEquals?_of_mem {cs : List Char} (h : '=' ∈ cs) :
    splitAtEquals? cs = some (cs.takeWhile (· ≠ '='), (cs.dropWhile (· ≠ '=')).drop 1) := by
  have hsplit := List.takeWhile_append_dropWhile (p := fun c : Char => decide (c ≠ '=')) (l := cs)
  have hkey : '=' ∉ cs.takeWhile (· ≠ '=') := fun hmem => by
    have htrue := List.all_eq_true.1 List.all_takeWhile '=' hmem
    simp at htrue
  obtain ⟨c, rest, hrest⟩ : ∃ c rest, cs.dropWhile (· ≠ '=') = c :: rest := by
    refine List.exists_cons_of_ne_nil fun hnil => hkey ?_
    rw [hnil, List.append_nil] at hsplit
    rwa [hsplit]
  have hc : c = '=' := by
    have hhead := List.head?_dropWhile_not (fun c : Char => decide (c ≠ '=')) cs
    rw [hrest] at hhead
    simpa using hhead
  subst hc
  rw [hrest] at hsplit ⊢
  rw [List.drop_one, List.tail_cons]
  conv_lhs => rw [← hsplit]
  exact splitAtEquals?_append hkey rest

theorem readText_of_not_malformed {text : String} (h : ¬ IsMalformed text) :
    readText text = .ok (keyOf text, readValue (rawOf text)) := by
  obtain ⟨hmem, hhead⟩ := not_or.1 h
  have hsplit := splitAtEquals?_of_mem (Decidable.not_not.1 hmem)
  unfold readText
  rw [hsplit]
  split
  · rename_i heq
    cases heq
  · rename_i raw heq
    refine absurd (splitAtEquals?_eq_nil.1 ⟨raw, ?_⟩) hhead
    rw [hsplit, heq]
  · rename_i heq
    cases heq
    rfl

/-! ## What a value is read as -/

/-- One of the two words in letters of any case. -/
def IsTruthWord (raw : String) : Prop :=
  raw.map Char.toLower = "true" ∨ raw.map Char.toLower = "false"

instance (raw : String) : Decidable (IsTruthWord raw) := inferInstanceAs (Decidable (_ ∨ _))

variable {raw : String}

theorem readValue_of_truthWord {b : Bool}
    (h : raw.map Char.toLower = if b then "true" else "false") : readValue raw = .bool b := by
  unfold readValue
  cases b <;> simp [h]

theorem readValue_of_integer (hword : ¬ IsTruthWord raw) {n : Int}
    (h : Numeral.readInteger raw = .ok n) : readValue raw = .int n := by
  obtain ⟨htrue, hfalse⟩ := not_or.1 hword
  simp [readValue, htrue, hfalse, h]

theorem readValue_of_no_integer (hword : ¬ IsTruthWord raw) {cause : Numeral.ReadError}
    (h : Numeral.readInteger raw = .error cause) :
    readValue raw = ((Numeral.readReal? raw).map .float).getD (.text raw) := by
  obtain ⟨htrue, hfalse⟩ := not_or.1 hword
  cases hreal : Numeral.readReal? raw <;> simp [readValue, htrue, hfalse, h, hreal]

/-! ## Many texts -/

/-- The first of the texts that is malformed. -/
def IsFirstMalformed (text : String) (texts : List String) : Prop :=
  ∃ before after, texts = before ++ text :: after ∧ (∀ t ∈ before, ¬ IsMalformed t) ∧
    IsMalformed text

/-- The attributes that the texts give. -/
structure IsRead (texts : List String) (attributes : Fields) : Prop where
  names : attributes.names = (texts.map keyOf).eraseDups
  value (key : String) : attributes.get? key =
    (texts.filter fun text => keyOf text = key).getLast?.map fun text => readValue (rawOf text)

/-- The pair that a text is read as. -/
def pairOf (text : String) : String × Value := (keyOf text, readValue (rawOf text))

variable {texts : List String}

theorem readAll_of_not_malformed (h : ∀ text ∈ texts, ¬ IsMalformed text) :
    readAll (texts.map .text) = .ok (Fields.ofList (texts.map pairOf)) := by
  have hread : (texts.map Value.text).mapM read = .ok (texts.map pairOf) := by
    refine mapM_eq_ok.2 ?_
    rw [List.forall₂_map_left_iff, List.forall₂_map_right_iff]
    exact List.forall₂_same.2 fun text htext => readText_of_not_malformed (h text htext)
  unfold readAll
  rw [hread]
  rfl

theorem isRead_ofList (texts : List String) : IsRead texts (Fields.ofList (texts.map pairOf)) := by
  constructor
  case names =>
    rw [Fields.names_ofList, Pairs.names, List.map_map]
    rfl
  case value =>
    intro key
    rw [Fields.get?_ofList, Pairs.last?, List.filter_map, List.getLast?_map, Option.map_map]
    rfl

theorem readAll_of_firstMalformed {text : String} (h : IsFirstMalformed text texts) :
    readAll (texts.map .text) = .error (.malformed text) := by
  obtain ⟨before, after, rfl, hbefore, hmalformed⟩ := h
  obtain ⟨cause, hcause⟩ := readText_isError_iff.2 hmalformed
  obtain rfl := readText_eq_error hcause
  have hread : ((before ++ text :: after).map Value.text).mapM read =
      .error (.malformed text) := by
    induction before with
    | nil =>
      rw [List.nil_append, List.map_cons, List.mapM_cons]
      simp only [read, hcause]
      rfl
    | cons t before ih =>
      rw [List.forall_mem_cons] at hbefore
      rw [List.cons_append, List.map_cons, List.mapM_cons, ih hbefore.2]
      simp only [read, readText_of_not_malformed hbefore.1]
      rfl
  unfold readAll
  rw [hread]
  rfl

theorem exists_firstMalformed (h : ∃ text ∈ texts, IsMalformed text) :
    ∃ text, IsFirstMalformed text texts := by
  induction texts with
  | nil => simp at h
  | cons t texts ih =>
    by_cases ht : IsMalformed t
    · exact ⟨t, [], texts, rfl, by simp, ht⟩
    · rw [List.exists_mem_cons_iff] at h
      obtain ⟨text, before, after, rfl, hbefore, hmalformed⟩ := ih (h.resolve_left ht)
      exact ⟨text, t :: before, after, rfl, List.forall_mem_cons.2 ⟨ht, hbefore⟩, hmalformed⟩

/-- Either some text is malformed and the first such is reported, or the texts are read, as a whole
or in two parts of which the second is written over the first. -/
theorem readAll_texts (texts : List String) :
    ((∃ cause, readAll (texts.map .text) = .error cause) ↔ ∃ text ∈ texts, IsMalformed text) ∧
    (∀ cause, readAll (texts.map .text) = .error cause →
      ∃ text, IsFirstMalformed text texts ∧ cause = .malformed text ∧
        cause.message = "expected KEY=VALUE, got " ++ Text.quoted text) ∧
    ((∀ text ∈ texts, ¬ IsMalformed text) →
      ∃ attributes, readAll (texts.map .text) = .ok attributes ∧ IsRead texts attributes) ∧
    ∀ more : List String, (∀ text ∈ texts ++ more, ¬ IsMalformed text) →
      ∃ first second, readAll (texts.map .text) = .ok first ∧
        readAll (more.map .text) = .ok second ∧
        readAll ((texts ++ more).map .text) = .ok (first.putAll second.entries) := by
  refine ⟨?_, ?_, ?_, ?_⟩
  · rw [readAll_isError_iff (List.forall_mem_map.2 fun text _ => ⟨text, rfl⟩)]
    simp
  · intro cause hcause
    have hsome : ∃ text ∈ texts, IsMalformed text := by
      by_contra hnone
      have hwell : ∀ text ∈ texts, ¬ IsMalformed text := fun text htext hmalformed =>
        hnone ⟨text, htext, hmalformed⟩
      rw [readAll_of_not_malformed hwell] at hcause
      cases hcause
    obtain ⟨text, hfirst⟩ := exists_firstMalformed hsome
    rw [readAll_of_firstMalformed hfirst] at hcause
    cases hcause
    exact ⟨text, hfirst, rfl, rfl⟩
  · intro h
    exact ⟨_, readAll_of_not_malformed h, isRead_ofList texts⟩
  · intro more h
    rw [List.forall_mem_append] at h
    refine ⟨_, _, readAll_of_not_malformed h.1, readAll_of_not_malformed h.2, ?_⟩
    rw [readAll_of_not_malformed (List.forall_mem_append.2 h), List.map_append,
      Fields.ofList_append]

/-- A key that is given again, values with equals signs and blanks in them, and an empty value. -/
theorem readAll_repeatedKeys :
    (∀ text ∈ ["a=1", "b=x=y", "a=True"] ++ ["c=", "b= 2 "], ¬ IsMalformed text) ∧
    (∃ first second, readAll (["a=1", "b=x=y", "a=True"].map .text) = .ok first ∧
      readAll (["c=", "b= 2 "].map .text) = .ok second ∧
      readAll ((["a=1", "b=x=y", "a=True"] ++ ["c=", "b= 2 "]).map .text) =
        .ok (first.putAll second.entries) ∧
      (first.putAll second.entries).names = ["a", "b", "c"] ∧
      (first.putAll second.entries).get? "a" = some (.bool true) ∧
      (first.putAll second.entries).get? "b" = some (.int 2) ∧
      (first.putAll second.entries).get? "c" = some (.text "")) ∧
    ∃ cause, readAll (["a=1", "=b", "c"].map .text) = .error cause ∧
      cause.message = "expected KEY=VALUE, got '=b'" := by
  have hwell : ∀ text ∈ ["a=1", "b=x=y", "a=True"] ++ ["c=", "b= 2 "], ¬ IsMalformed text := by
    unfold IsMalformed
    decide
  obtain ⟨-, -, hread, -⟩ := readAll_texts (["a=1", "b=x=y", "a=True"] ++ ["c=", "b= 2 "])
  obtain ⟨-, -, -, hparts⟩ := readAll_texts ["a=1", "b=x=y", "a=True"]
  obtain ⟨first, second, hfirst, hsecond, hboth⟩ := hparts _ hwell
  obtain ⟨attributes, hattributes, hnames, hvalue⟩ := hread hwell
  obtain rfl := Except.ok.inj (hattributes.symm.trans hboth)
  have hlast : ∀ key text, ((["a=1", "b=x=y", "a=True"] ++ ["c=", "b= 2 "]).filter
      fun text => keyOf text = key).getLast? = some text →
      (first.putAll second.entries).get? key = some (readValue (rawOf text)) := by
    intro key text htext
    rw [hvalue, htext, Option.map_some]
  refine ⟨hwell, ⟨first, second, hfirst, hsecond, hboth, ?_, ?_, ?_, ?_⟩, ?_⟩
  · rw [hnames]
    decide +kernel
  · rw [hlast "a" "a=True" (by decide +kernel)]
    exact congrArg some (readValue_of_truthWord (by decide +kernel))
  · rw [hlast "b" "b= 2 " (by decide +kernel)]
    exact congrArg some (readValue_of_integer (by decide +kernel) (by decide +kernel))
  · have hinteger : Numeral.readInteger (rawOf "c=") = .error .noNumeral := by decide +kernel
    have hreal : Numeral.readReal? (rawOf "c=") = none := by decide +kernel
    rw [hlast "c" "c=" (by decide +kernel), readValue_of_no_integer (by decide +kernel) hinteger,
      hreal]
    rfl
  · have hfails : readAll (["a=1", "=b", "c"].map .text) = .error (.malformed "=b") := rfl
    obtain ⟨-, hreport, -⟩ := readAll_texts ["a=1", "=b", "c"]
    obtain ⟨text, -, heq, hmessage⟩ := hreport _ hfails
    obtain rfl := AttributeError.malformed.inj heq
    exact ⟨_, hfails, hmessage.trans (by decide +kernel)⟩

end SpanExport.Attribute
