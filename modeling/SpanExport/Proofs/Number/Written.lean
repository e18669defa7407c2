import SpanExport.Number.Numeral
import SpanExport.Proofs.Number.Digits

/-!
# Written numbers

Digits with a point among them or not, and with an exponent or not, are read as the decimal that they
stand for. The same goes for a sign before them.
-/

namespace SpanExport

/-! ## Reading digits -/

namespace Numeral

theorem digitValue?_digitChar {d : Nat} (h : d < 10) :
    Text.digitValue? (Nat.digitChar d) = some d := by
  revert d
  decide

theorem toLower_digitChar_ne {d : Nat} (hd : d < 10) {c : Char} (hc : c.isDigit = false) :
    (Nat.digitChar d).toLower ≠ c := by
  have hdigit : ∀ d < 10, (Nat.digitChar d).toLower.isDigit = true := by decide
  rintro rfl
  rw [hdigit d hd] at hc
  cases hc

/-- The text goes on with something other than a digit, if at all. -/
def EndsDigits (rest : List Char) : Prop := rest.head?.bind Text.digitValue? = none

theorem endsDigits_cons {c : Char} {cs : List Char} (h : Text.digitValue? c = none) :
    EndsDigits (c :: cs) := h

variable {ds : List Nat}

theorem leadingDigits_append (hds : ∀ d ∈ ds, d < 10) {rest : List Char} (hrest : EndsDigits rest) :
    leadingDigits (ds.map Nat.digitChar ++ rest) = (ds, rest) := by
  induction ds with
  | nil =>
    cases rest with
    | nil => rfl
    | cons c cs =>
      have hc : Text.digitValue? c = none := hrest
      rw [List.map_nil, List.nil_append, leadingDigits, hc]
  | cons d ds ih =>
    rw [List.forall_mem_cons] at hds
    rw [List.map_cons, List.cons_append, leadingDigits, digitValue?_digitChar hds.1, ih hds.2]

theorem padded_eq_map (width n : Nat) : ∃ ds : List Nat, (∀ d ∈ ds, d < 10) ∧
    Digits.padded width 10 n = ds.map Nat.digitChar ∧ ds ≠ [] ∧ Digits.toNat 10 ds = n := by
  refine ⟨List.replicate (width - (Digits.text 10 n).length) 0 ++ Digits.ofNat 10 n, ?_, ?_, ?_, ?_⟩
  · intro d hd
    rcases List.mem_append.1 hd with hd | hd
    · rw [List.eq_of_mem_replicate hd]
      omega
    · exact Digits.lt_of_mem_ofNat (by omega) hd
  · rw [List.map_append, List.map_replicate]
    rfl
  · simp [Digits.ofNat_ne_nil]
  · rw [Digits.toNat_zeros_append, Digits.toNat_ofNat]

theorem exponent?_exponentText (e : Int) : exponent? (Binary64.exponentText e) = some e := by
  obtain ⟨ds, hlt, htext, hne, hvalue⟩ := padded_eq_map 2 e.natAbs
  have hread : leadingDigits (ds.map Nat.digitChar) = (ds, []) := by
    simpa using leadingDigits_append hlt (show EndsDigits [] from rfl)
  obtain ⟨d, rest, rfl⟩ := List.exists_cons_of_ne_nil hne
  unfold Binary64.exponentText
  rw [htext]
  by_cases hsign : e < 0
  · rw [if_pos hsign]
    simp only [exponent?, hread, hvalue, true_or, if_true, Binary64.signed]
    rw [Option.some.injEq]
    omega
  · rw [if_neg hsign]
    simp only [exponent?, hread, hvalue, true_or, if_true, Binary64.signed, Bool.false_eq_true,
      if_false]
    rw [Option.some.injEq]
    omega

theorem decimal?_whole (hds : ∀ d ∈ ds, d < 10) (hne : ds ≠ []) {rest : List Char} {e : Int}
    (hrest : exponent? rest = some e) (hend : EndsDigits rest) (hpoint : rest.head? ≠ some '.') :
    decimal? (ds.map Nat.digitChar ++ rest) = some ⟨Digits.toNat 10 ds, e⟩ := by
  unfold decimal?
  rw [leadingDigits_append hds hend]
  simp only
  split
  · exact absurd rfl hpoint
  · simp [hne, hrest]

theorem decimal?_point {part : List Nat} (hds : ∀ d ∈ ds, d < 10) (hpart : ∀ d ∈ part, d < 10)
    (hne : ds ≠ []) {rest : List Char} {e : Int} (hrest : exponent? rest = some e)
    (hend : EndsDigits rest) :
    decimal? (ds.map Nat.digitChar ++ '.' :: (part.map Nat.digitChar ++ rest)) =
      some ⟨Digits.toNat 10 (ds ++ part), e - part.length⟩ := by
  have hdot : EndsDigits ('.' :: (part.map Nat.digitChar ++ rest)) := endsDigits_cons (by decide)
  unfold decimal?
  rw [leadingDigits_append hds hdot]
  simp only
  rw [leadingDigits_append hpart hend]
  simp [hne, hrest]

end Numeral

/-! ## Written numbers -/

/-- Digits, perhaps a point with more digits, and perhaps an exponent of ten. -/
structure Written where
  whole : List Nat
  part : Option (List Nat) := none
  exponent : Option Int := none
  whole_ne_nil : whole ≠ []
  digit_lt : ∀ d ∈ whole ++ part.getD [], d < 10

namespace Written

open Numeral

def chars (w : Written) : List Char :=
  w.whole.map Nat.digitChar ++ ((w.part.elim [] fun ds => '.' :: ds.map Nat.digitChar) ++
    w.exponent.elim [] Binary64.exponentText)

def decimal (w : Written) : Decimal :=
  ⟨Digits.toNat 10 (w.whole ++ w.part.getD []), w.exponent.getD 0 - (w.part.getD []).length⟩

variable (w : Written)

theorem decimal?_chars : decimal? w.chars = some w.decimal := by
  obtain ⟨whole, part, exponent, hne, hlt⟩ := w
  rw [List.forall_mem_append] at hlt
  have hexponent : exponent? (exponent.elim [] Binary64.exponentText) = some (exponent.getD 0) := by
    cases exponent with
    | none => rfl
    | some e => exact exponent?_exponentText e
  have hend : EndsDigits (exponent.elim [] Binary64.exponentText) := by
    cases exponent with
    | none => rfl
    | some e => exact endsDigits_cons (by decide)
  have hpoint : (exponent.elim [] Binary64.exponentText).head? ≠ some '.' := by
    cases exponent <;> simp [Binary64.exponentText]
  unfold chars decimal
  cases part with
  | none =>
    simp only [Option.elim_none, List.nil_append, Option.getD_none, List.append_nil,
      List.length_nil]
    rw [decimal?_whole hlt.1 hne hexponent hend hpoint]
    simp
  | some ds =>
    simp only [Option.elim_some, List.cons_append, Option.getD_some]
    exact decimal?_point hlt.1 hlt.2 hne hexponent hend

/-! ## Reading what is written -/

/-- Neither a blank nor an underscore. -/
def IsPlain (c : Char) : Prop := Text.isBlank c = false ∧ c ≠ '_'

theorem isPlain_digitChar {d : Nat} (h : d < 10) : IsPlain (Nat.digitChar d) := by
  unfold IsPlain
  revert d
  decide

theorem isPlain_exponentText (e : Int) : ∀ c ∈ Binary64.exponentText e, IsPlain c := by
  obtain ⟨ds, hlt, htext, -⟩ := padded_eq_map 2 e.natAbs
  have hsign : IsPlain (if e < 0 then '-' else '+') := by
    unfold IsPlain
    split <;> decide
  have he : IsPlain 'e' := by
    unfold IsPlain
    decide
  unfold Binary64.exponentText
  rw [htext]
  simp only [List.forall_mem_cons, List.forall_mem_map]
  exact ⟨he, hsign, fun d hd => isPlain_digitChar (hlt d hd)⟩

theorem isPlain_chars : ∀ c ∈ w.chars, IsPlain c := by
  obtain ⟨whole, part, exponent, hne, hlt⟩ := w
  have hpoint : IsPlain '.' := by
    unfold IsPlain
    decide
  unfold chars
  simp only [List.forall_mem_append, List.forall_mem_map] at hlt ⊢
  refine ⟨fun d hd => isPlain_digitChar (hlt.1 d hd), ?_, ?_⟩
  · cases part with
    | none => simp
    | some ds =>
      simp only [Option.elim_some, List.forall_mem_cons, List.forall_mem_map]
      exact ⟨hpoint, fun d hd => isPlain_digitChar (hlt.2 d hd)⟩
  · cases exponent with
    | none => simp
    | some e => exact isPlain_exponentText e

theorem exists_head : ∃ d < 10, ∃ cs, w.chars = Nat.digitChar d :: cs := by
  obtain ⟨whole, part, exponent, hne, hlt⟩ := w
  obtain ⟨d, ds, rfl⟩ := List.exists_cons_of_ne_nil hne
  exact ⟨d, hlt d (by simp), _, rfl⟩

theorem trimBy_isBlank {cs : List Char} (h : ∀ c ∈ cs, IsPlain c) :
    Text.trimBy Text.isBlank cs = cs := by
  have hdrop : ∀ {cs : List Char}, (∀ c ∈ cs, IsPlain c) → cs.dropWhile Text.isBlank = cs := by
    intro cs h
    cases cs with
    | nil => rfl
    | cons c cs =>
      rw [List.dropWhile_cons_of_neg]
      simp [(h c List.mem_cons_self).1]
  unfold Text.trimBy
  rw [hdrop h, hdrop fun c hc => h c (List.mem_reverse.1 hc), List.reverse_reverse]

theorem joined?_of_isPlain {cs : List Char} (h : ∀ c ∈ cs, IsPlain c) (afterDigit : Bool) :
    joined? afterDigit cs = some cs := by
  induction cs generalizing afterDigit with
  | nil => rfl
  | cons c cs ih =>
    rw [List.forall_mem_cons] at h
    rw [joined?, if_neg h.1.2, ih h.2]
    rfl

theorem word?_chars (negative : Bool) : word? negative w.chars = none := by
  obtain ⟨d, hd, cs, hcs⟩ := w.exists_head
  have hi := toLower_digitChar_ne hd (c := 'i') rfl
  have hn := toLower_digitChar_ne hd (c := 'n') rfl
  have hne : ∀ t : String, t.toList.head? = some 'i' ∨ t.toList.head? = some 'n' →
      String.ofList (w.chars.map Char.toLower) ≠ t := by
    rintro t ht rfl
    rw [String.toList_ofList, hcs] at ht
    simp [hi, hn] at ht
  unfold word?
  simp only
  rw [if_neg, if_neg]
  · exact hne "nan" (.inr rfl)
  · rintro (h | h)
    · exact hne "inf" (.inl rfl) h
    · exact hne "infinity" (.inl rfl) h

theorem digitChar_ne_sign : ∀ d < 10, Nat.digitChar d ≠ '-' ∧ Nat.digitChar d ≠ '+' := by decide

theorem signAndRest_signed {d : Nat} {cs : List Char} (hd : d < 10)
    (hplain : ∀ c ∈ Nat.digitChar d :: cs, IsPlain c) (negative : Bool) :
    signAndRest (if negative then '-' :: Nat.digitChar d :: cs else Nat.digitChar d :: cs) =
      (negative, Nat.digitChar d :: cs) := by
  have hminus : IsPlain '-' := by
    unfold IsPlain
    decide
  unfold signAndRest
  cases negative with
  | true =>
    rw [if_pos rfl, trimBy_isBlank (List.forall_mem_cons.2 ⟨hminus, hplain⟩)]
    rfl
  | false =>
    obtain ⟨hminus, hplus⟩ := digitChar_ne_sign d hd
    rw [if_neg (by decide), trimBy_isBlank hplain]
    split
    · rename_i heq
      exact absurd (List.cons.inj heq).1 hminus
    · rename_i heq
      exact absurd (List.cons.inj heq).1 hplus
    · rfl

theorem realChars?_chars (negative : Bool) :
    realChars? (if negative then '-' :: w.chars else w.chars) =
      some (w.decimal.toBinary64 negative) := by
  have hplain := w.isPlain_chars
  have hsign : signAndRest (if negative then '-' :: w.chars else w.chars) =
      (negative, w.chars) := by
    obtain ⟨d, hd, cs, hcs⟩ := w.exists_head
    rw [hcs] at hplain ⊢
    exact signAndRest_signed hd hplain negative
  unfold realChars?
  rw [hsign]
  simp only
  rw [w.word?_chars, joined?_of_isPlain hplain]
  simp only [Option.bind_some]
  rw [w.decimal?_chars]
  rfl

end Written

end SpanExport
