import SpanExport.Attribute
import SpanExport.Proofs.Delivery.Batch
import SpanExport.Proofs.Tracing.Settings
import SpanExport.Proofs.Value.Mapping
import SpanExport.Tracing.Recording

/-!
# Attributes of a command line

What is read from texts is a truth value, a number or a text, under a name that is not empty. A
span keeps such attributes as they are, and so does an event.
-/

namespace SpanExport

/-! ## Values that stay as they are -/

/-- A truth value, a number or a text. -/
def Value.IsScalar : Value → Prop
  | .bool _ | .int _ | .float _ | .text _ => True
  | _ => False

theorem Value.IsScalar.frozen {v : Value} (h : v.IsScalar) : v.frozen = .ok v := by
  cases v <;> first | rfl | cases h

theorem Value.IsScalar.toField {v : Value} (h : v.IsScalar) : v.toField = .ok v := by
  cases v <;> first | rfl | cases h

/-! ## Reading -/

namespace Attribute

/-- There is no equals sign in the text, or nothing before it. -/
def IsMalformed (text : String) : Prop := '=' ∉ text.toList ∨ text.toList.head? = some '='

theorem splitAtEquals?_eq_none {cs : List Char} : splitAtEquals? cs = none ↔ '=' ∉ cs := by
  induction cs with
  | nil => simp [splitAtEquals?]
  | cons c cs ih =>
    unfold splitAtEquals?
    by_cases hc : c = '='
    · simp [hc]
    · simp [hc, ih, Ne.symm hc]

theorem splitAtEquals?_append {cs : List Char} (h : '=' ∉ cs) (rest : List Char) :
    splitAtEquals? (cs ++ '=' :: rest) = some (cs, rest) := by
  induction cs with
  | nil => rfl
  | cons c cs ih =>
    rw [List.mem_cons, not_or] at h
    rw [List.cons_append, splitAtEquals?, if_neg (Ne.symm h.1), ih h.2]
    rfl

theorem splitAtEquals?_eq_nil {cs : List Char} :
    (∃ raw, splitAtEquals? cs = some ([], raw)) ↔ cs.head? = some '=' := by
  cases cs with
  | nil => simp [splitAtEquals?]
  | cons c cs =>
    unfold splitAtEquals?
    by_cases hc : c = '='
    · simp [hc]
    · simp [hc]

theorem readText_isError_iff {text : String} :
    (∃ cause, readText text = .error cause) ↔ IsMalformed text := by
  unfold IsMalformed
  rw [← splitAtEquals?_eq_none, ← splitAtEquals?_eq_nil]
  unfold readText
  split <;> simp_all

theorem readText_eq_error {text : String} {cause : AttributeError}
    (h : readText text = .error cause) : cause = .malformed text := by
  unfold readText at h
  split at h
  · cases h
    rfl
  · cases h
    rfl
  · cases h

theorem readValue_isScalar (raw : String) : (readValue raw).IsScalar := by
  unfold readValue
  simp only
  repeat' split
  all_goals trivial

theorem readText_eq_ok {text key : String} {value : Value} (h : readText text = .ok (key, value)) :
    key ≠ "" ∧ value.IsScalar := by
  unfold readText at h
  split at h
  · cases h
  · cases h
  · rename_i before raw hne _
    cases h
    refine ⟨fun hempty => hne ?_, readValue_isScalar _⟩
    simpa using hempty

theorem readAll_eq_ok {given : List Value} {attributes : Fields}
    (h : readAll given = .ok attributes) :
    ∀ entry ∈ attributes.entries, entry.1 ≠ "" ∧ entry.2.IsScalar := by
  unfold readAll at h
  obtain ⟨pairs, hm, rfl⟩ := map_eq_ok.1 h
  rintro ⟨key, value⟩ hentry
  rcases Fields.mem_putAll hentry with hnone | hpair
  · cases hnone
  · obtain ⟨v, -, hread⟩ := mem_of_mapM hm hpair
    cases v with
    | text text => exact readText_eq_ok hread
    | _ => cases hread

theorem readAll_isOk_iff {given : List Value} :
    (∃ attributes, readAll given = .ok attributes) ↔ ∀ v ∈ given, ∃ pair, read v = .ok pair := by
  rw [← mapM_isOk_iff]
  unfold readAll
  cases given.mapM read <;> simp [Functor.map, Except.map]

theorem readAll_isError_iff {given : List Value} (h : ∀ v ∈ given, ∃ text, v = .text text) :
    (∃ cause, readAll given = .error cause) ↔ ∃ text, .text text ∈ given ∧ IsMalformed text := by
  rw [isError_iff, readAll_isOk_iff, not_forall]
  constructor
  · rintro ⟨v, hno⟩
    obtain ⟨hv, hread⟩ := Classical.not_imp.1 hno
    obtain ⟨text, rfl⟩ := h v hv
    exact ⟨text, hv, readText_isError_iff.1 ((isError_iff _).2 hread)⟩
  · rintro ⟨text, htext, hmalformed⟩
    have hread := (isError_iff _).1 (readText_isError_iff.2 hmalformed)
    exact ⟨.text text, Classical.not_imp.2 ⟨htext, hread⟩⟩

theorem readAll_eq_error {given : List Value} (h : ∀ v ∈ given, ∃ text, v = .text text)
    {cause : AttributeError} (he : readAll given = .error cause) :
    ∃ text, cause = .malformed text := by
  unfold readAll at he
  cases hm : given.mapM read with
  | ok pairs => simp [hm, Functor.map, Except.map] at he
  | error e =>
    simp only [hm, Functor.map, Except.map, Except.error.injEq] at he
    subst he
    obtain ⟨v, hv, hread⟩ := exists_of_mapM_error hm
    obtain ⟨text, rfl⟩ := h v hv
    exact ⟨text, readText_eq_error hread⟩

end Attribute

/-! ## Keeping -/

theorem setAttribute_of_frozen {limits : AttributeLimits} {attributes : Fields} {key : String}
    {value kept : Value} (h : value.frozen = .ok kept) :
    ∃ fields, setAttribute limits attributes key value = .ok fields := by
  unfold setAttribute
  rw [h]
  split
  · exact ⟨_, rfl⟩
  · exact ⟨_, rfl⟩

theorem initialAttributes_of_frozen (limits : AttributeLimits) {attributes : Fields}
    (h : ∀ entry ∈ attributes.entries, ∃ kept, entry.2.frozen = .ok kept) :
    ∃ fields, initialAttributes limits attributes = .ok fields := by
  refine foldlM_of_ok (fun entry hentry fields => ?_) Fields.empty
  obtain ⟨kept, hkept⟩ := h entry hentry
  exact setAttribute_of_frozen hkept

/-! ## Keeping all of them -/

section

variable {limits : AttributeLimits} (hlimits : limits.IsAmple)

include hlimits

theorem setAttribute_fresh {attributes : Fields} {key : String} {value : Value}
    (hfresh : key ∉ attributes.names) (hkey : key ≠ "") (hvalue : value.frozen = .ok value)
    (hsize : attributes.size < keptLimit) :
    ∃ fields, setAttribute limits attributes key value = .ok fields ∧
      fields.entries = attributes.entries ++ [(key, value)] := by
  have herase : Pairs.erase key attributes.entries = attributes.entries :=
    Pairs.erase_of_notMem hfresh
  have hothers : attributes.erase key = attributes := by
    unfold Fields.erase
    simp only [herase]
  have hsome : limits.count ≠ some 0 := fun hzero =>
    absurd (hlimits.count 0 hzero) (by decide)
  have hroom : limits.count.any (· ≤ attributes.size) = false := by
    cases hcount : limits.count with
    | none => rfl
    | some n =>
      have := hlimits.count n hcount
      simp only [Option.any_some, decide_eq_false_iff_not]
      omega
  refine ⟨attributes.putLast key value, ?_, ?_⟩
  · unfold setAttribute
    simp only [hkey, hsome, or_self, if_false, hothers, hroom, Bool.false_eq_true, hvalue,
      hlimits.shorten]
    rfl
  · simp only [Fields.putLast, herase]

theorem foldlM_setAttribute {attributes : Fields} (hsize : attributes.size ≤ keptLimit)
    (hkeys : ∀ entry ∈ attributes.entries, entry.1 ≠ "" ∧ entry.2.frozen = .ok entry.2)
    {rest : List (String × Value)} {kept : Fields}
    (h : attributes.entries = kept.entries ++ rest) :
    rest.foldlM (fun kept entry => setAttribute limits kept entry.1 entry.2) kept =
      .ok attributes := by
  -- What is kept and the rest are all of the attributes, so no key comes again and there is room.
  induction rest generalizing kept with
  | nil =>
    rw [List.append_nil] at h
    cases attributes
    cases kept
    cases h
    rfl
  | cons entry rest ih =>
    obtain ⟨key, value⟩ := entry
    have hdistinct := attributes.distinct
    have hlength : attributes.size = kept.size + (rest.length + 1) := by
      unfold Fields.size
      rw [h, List.length_append, List.length_cons]
    have hfresh : key ∉ kept.names := by
      intro hmem
      rw [h, Pairs.names, List.map_append, List.map_cons, List.nodup_append] at hdistinct
      exact hdistinct.2.2 key hmem key List.mem_cons_self rfl
    obtain ⟨hkey, hvalue⟩ := hkeys (key, value) (by simp [h])
    obtain ⟨next, hnext, hentries⟩ := setAttribute_fresh hlimits hfresh hkey hvalue (by omega)
    rw [List.foldlM_cons, hnext]
    refine ih ?_
    rw [hentries, h, List.append_assoc, List.singleton_append]

theorem initialAttributes_self {attributes : Fields} (hsize : attributes.size ≤ keptLimit)
    (hkeys : ∀ entry ∈ attributes.entries, entry.1 ≠ "" ∧ entry.2.frozen = .ok entry.2) :
    initialAttributes limits attributes = .ok attributes := by
  have hnone : attributes.entries = Fields.empty.entries ++ attributes.entries := rfl
  exact foldlM_setAttribute hlimits hsize hkeys hnone

end

theorem attributePairs_of_scalars {attributes : Fields}
    (h : ∀ entry ∈ attributes.entries, entry.2.IsScalar) :
    Exporter.attributePairs attributes = .ok attributes.entries := by
  apply mapM_eq_ok.2
  apply List.forall₂_same.2
  rintro ⟨key, value⟩ hentry
  have hvalue : value.toField = .ok value := (h _ hentry).toField
  simp only [hvalue]

end SpanExport
