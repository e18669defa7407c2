import SpanExport.Proofs.CommandLine.AttributeTexts
import SpanExport.Proofs.Number.Integer
import SpanExport.Proofs.Number.Shortest

/-!
# Attributes that are written and read back

Truth values, integers and numbers are read back from their own texts as what they are, and a text
that says none of these stays a text. So attributes survive a command line with their types and in
their order.
-/

namespace SpanExport

/-! ## Texts that are no truth value -/

namespace Attribute

theorem not_isTruthWord {raw : String} {c : Char} (h : raw.toList.head? = some c)
    (hc : c.toLower ≠ 't' ∧ c.toLower ≠ 'f') : ¬ IsTruthWord raw := by
  have hhead : (raw.map Char.toLower).toList.head? = some c.toLower := by
    rw [String.toList_map, List.head?_map, h, Option.map_some]
  rintro (hword | hword)
  · rw [hword] at hhead
    exact hc.1 (Option.some.inj hhead).symm
  · rw [hword] at hhead
    exact hc.2 (Option.some.inj hhead).symm

theorem digitChar_not_isTruthWord {raw : String} {d : Nat} (hd : d < 10)
    (h : raw.toList.head? = some (Nat.digitChar d)) : ¬ IsTruthWord raw :=
  not_isTruthWord h ⟨Numeral.toLower_digitChar_ne hd rfl, Numeral.toLower_digitChar_ne hd rfl⟩

theorem integerText_not_isTruthWord {n : Int} {raw : String} (h : integerText n = .ok raw) :
    ¬ IsTruthWord raw := by
  unfold integerText at h
  split at h
  · cases h
  · obtain rfl := Except.ok.inj h
    obtain ⟨d, ds, hdigits⟩ := List.exists_cons_of_ne_nil (Digits.ofNat_ne_nil 10 n.natAbs)
    have hd : d < 10 := Digits.lt_of_mem_ofNat (by decide) (hdigits ▸ List.mem_cons_self)
    by_cases hsign : n < 0
    · have hhead : (Digits.decimal n).head? = some '-' := by
        rw [Digits.decimal, if_pos hsign, List.head?_cons]
      exact not_isTruthWord (by rwa [String.toList_ofList]) (by decide)
    · have hhead : (Digits.decimal n).head? = some (Nat.digitChar d) := by
        rw [Digits.decimal, if_neg hsign, Digits.text, hdigits, List.map_cons, List.head?_cons]
      exact digitChar_not_isTruthWord hd (by rwa [String.toList_ofList])

theorem text_not_isTruthWord (x : Binary64) : ¬ IsTruthWord x.text := by
  match x with
  | .nan => decide +kernel
  | .infinite negative => cases negative <;> decide +kernel
  | .finite negative mant exp h =>
    obtain ⟨w, hchars, -⟩ := Binary64.magnitudeText_eq h negative
    obtain ⟨d, hd, cs, hcs⟩ := w.exists_head
    have hdigits := hchars.trans hcs
    rw [Binary64.text]
    cases negative with
    | true => exact not_isTruthWord (c := '-') (by rw [String.toList_ofList]; rfl) (by decide)
    | false =>
      refine digitChar_not_isTruthWord hd ?_
      rw [String.toList_ofList, Binary64.chars, hdigits]
      rfl

/-! ## Values with a text of their own -/

/-- A value that a text can give: a truth value, an integer that is not too long, a number, or a text
that gives none of these. -/
inductive IsTyped : Value → Prop
  | bool (b : Bool) : IsTyped (.bool b)
  | int {n : Int} (h : n.natAbs < 10 ^ Numeral.digitLimit) : IsTyped (.int n)
  | float (x : Binary64) : IsTyped (.float x)
  | text {raw : String} (hword : ¬ IsTruthWord raw)
    (hinteger : ∃ cause, Numeral.readInteger raw = .error cause)
    (hreal : Numeral.readReal? raw = none) : IsTyped (.text raw)

theorem IsTyped.readValue_plainText {v : Value} (h : IsTyped v) :
    ∃ raw, v.plainText = .ok raw ∧ readValue raw = v := by
  cases h with
  | bool b =>
    refine ⟨_, rfl, readValue_of_truthWord ?_⟩
    cases b <;> decide +kernel
  | @int n h =>
    obtain ⟨raw, hraw⟩ := integerText_isOk h
    exact ⟨raw, hraw, readValue_of_integer (integerText_not_isTruthWord hraw)
      (Numeral.readInteger_integerText hraw)⟩
  | float x =>
    obtain ⟨cause, hcause⟩ := x.readInteger_text
    refine ⟨x.text, rfl, ?_⟩
    rw [readValue_of_no_integer (text_not_isTruthWord x) hcause, Numeral.readReal?_text]
    rfl
  | @text raw hword hinteger hreal =>
    obtain ⟨cause, hcause⟩ := hinteger
    refine ⟨raw, rfl, ?_⟩
    rw [readValue_of_no_integer hword hcause, hreal]
    rfl

/-! ## Attributes with a text of their own -/

/-- The text that gives an attribute. -/
def written (entry : String × Value) : Except TextError String :=
  (entry.1 ++ "=" ++ ·) <$> entry.2.plainText

/-- A key that a text can give. -/
def IsKey (key : String) : Prop := key ≠ "" ∧ '=' ∉ key.toList

theorem pairOf_assignment {key : String} (h : IsKey key) (raw : String) :
    ¬ IsMalformed (key ++ "=" ++ raw) ∧ pairOf (key ++ "=" ++ raw) = (key, readValue raw) := by
  have hsplit : splitAtEquals? (key ++ "=" ++ raw).toList = some (key.toList, raw.toList) := by
    rw [String.toList_append, String.toList_append, List.append_assoc]
    exact splitAtEquals?_append h.2 raw.toList
  have hwell : ¬ IsMalformed (key ++ "=" ++ raw) := by
    rintro (hmem | hhead)
    · rw [splitAtEquals?_eq_none.2 hmem] at hsplit
      cases hsplit
    · obtain ⟨rest, hrest⟩ := splitAtEquals?_eq_nil.2 hhead
      rw [hsplit] at hrest
      exact h.1 (String.toList_inj.1 (Prod.mk.inj (Option.some.inj hrest)).1)
  refine ⟨hwell, ?_⟩
  have hmem := Decidable.not_not.1 (not_or.1 hwell).1
  obtain ⟨hkey, hraw⟩ := Prod.mk.inj (Option.some.inj ((splitAtEquals?_of_mem hmem).symm.trans hsplit))
  unfold pairOf keyOf rawOf
  rw [hkey, hraw, String.ofList_toList, String.ofList_toList]

theorem exists_written {entry : String × Value} (hkey : IsKey entry.1) (hvalue : IsTyped entry.2) :
    ∃ text, written entry = .ok text ∧ ¬ IsMalformed text ∧ pairOf text = entry := by
  obtain ⟨raw, hraw, hread⟩ := hvalue.readValue_plainText
  obtain ⟨hwell, hpair⟩ := pairOf_assignment hkey raw
  refine ⟨entry.1 ++ "=" ++ raw, ?_, hwell, ?_⟩
  · rw [written, hraw]
    rfl
  · rw [hpair, hread]

theorem exists_texts {entries : List (String × Value)}
    (h : ∀ entry ∈ entries, IsKey entry.1 ∧ IsTyped entry.2) :
    ∃ texts, entries.mapM written = .ok texts ∧ (∀ text ∈ texts, ¬ IsMalformed text) ∧
      texts.map pairOf = entries := by
  induction entries with
  | nil => exact ⟨[], rfl, by simp, rfl⟩
  | cons entry entries ih =>
    rw [List.forall_mem_cons] at h
    obtain ⟨text, htext, hwell, hpair⟩ := exists_written h.1.1 h.1.2
    obtain ⟨texts, htexts, hrest, hpairs⟩ := ih h.2
    refine ⟨text :: texts, ?_, List.forall_mem_cons.2 ⟨hwell, hrest⟩, ?_⟩
    · rw [List.mapM_cons, htext, htexts]
      rfl
    · rw [List.map_cons, hpair, hpairs]

/-- Attributes of typed values are read back from their texts with the same types and in the same
order. -/
theorem readAll_written (attributes : Fields)
    (h : ∀ entry ∈ attributes.entries, IsKey entry.1 ∧ IsTyped entry.2) :
    ∃ texts, attributes.entries.mapM written = .ok texts ∧
      readAll (texts.map .text) = .ok attributes := by
  obtain ⟨texts, hwritten, hwell, hpairs⟩ := exists_texts h
  refine ⟨texts, hwritten, ?_⟩
  rw [readAll_of_not_malformed hwell, hpairs, Fields.ofList_entries]

theorem canonical_unit : Canonical 1 0 := by decide

/-- A whole number with a point, a number of one unit, both words, and a text that is nearly an
integer. -/
def measurements : Fields :=
  ⟨[("retried", .bool false), ("count", .int (-7)), ("ratio", .float .one),
    ("least", .float (.finite true 1 0 canonical_unit)), ("peak", .float (.infinite true)),
    ("mean", .float .nan), ("build", .text "1__0")], by decide⟩

theorem readAll_measurements :
    (∀ entry ∈ measurements.entries, IsKey entry.1 ∧ IsTyped entry.2) ∧
    readAll (["retried=False", "count=-7", "ratio=1.0", "least=-5e-324", "peak=-inf", "mean=nan",
      "build=1__0"].map .text) = .ok measurements := by
  have hbuild : IsTyped (.text "1__0") :=
    .text (by decide +kernel) ⟨.noNumeral, by decide +kernel⟩ (by decide +kernel)
  have htyped : ∀ entry ∈ measurements.entries, IsKey entry.1 ∧ IsTyped entry.2 := by
    have hcount : (-7 : Int).natAbs < 10 ^ Numeral.digitLimit :=
      Nat.lt_of_lt_of_le (show 7 < 10 ^ 1 by decide) (Nat.pow_le_pow_right (by decide) (by decide))
    simp only [measurements, List.forall_mem_cons, IsKey]
    refine ⟨⟨by decide, .bool _⟩, ⟨by decide, .int hcount⟩, ⟨by decide, .float _⟩,
      ⟨by decide, .float _⟩, ⟨by decide, .float _⟩, ⟨by decide, .float _⟩, ⟨by decide, hbuild⟩, ?_⟩
    simp
  obtain ⟨texts, hwritten, hread⟩ := readAll_written measurements htyped
  have htexts : measurements.entries.mapM written = .ok ["retried=False", "count=-7", "ratio=1.0",
      "least=-5e-324", "peak=-inf", "mean=nan", "build=1__0"] := by
    decide +kernel
  obtain rfl := Except.ok.inj (hwritten.symm.trans htexts)
  exact ⟨htyped, hread⟩

end Attribute

end SpanExport
