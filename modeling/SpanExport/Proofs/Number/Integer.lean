import SpanExport.Proofs.Number.Written
import SpanExport.Proofs.Value.Writable

/-!
# Integers that are read

An integer is read back from its own text. What has a character that stands in no integer is read as
none, and so are the texts of all binary64 numbers.
-/

namespace SpanExport

/-! ## Reading back -/

namespace Numeral

open Written

theorem digits?_map {ds : List Nat} (hds : ∀ d ∈ ds, d < 10) :
    digits? true (ds.map Nat.digitChar) = some (ds, []) := by
  induction ds with
  | nil => rfl
  | cons d ds ih =>
    rw [List.forall_mem_cons] at hds
    rw [List.map_cons, digits?, digitValue?_digitChar hds.1]
    simp only [ih hds.2, Option.map_some]

theorem readChars_digits {d : Nat} {ds : List Nat} (hds : ∀ d' ∈ d :: ds, d' < 10)
    (hlength : (d :: ds).length ≤ digitLimit) (negative : Bool) :
    readChars (if negative then '-' :: (d :: ds).map Nat.digitChar
        else (d :: ds).map Nat.digitChar) =
      .ok (Binary64.signed negative (Digits.toNat 10 (d :: ds))) := by
  have hplain : ∀ c ∈ (d :: ds).map Nat.digitChar, IsPlain c :=
    List.forall_mem_map.2 fun d' hd' => isPlain_digitChar (hds d' hd')
  have hsign := signAndRest_signed (hds d List.mem_cons_self) hplain negative
  have hread : digits? false ((d :: ds).map Nat.digitChar) = some (d :: ds, []) := by
    rw [List.forall_mem_cons] at hds
    rw [List.map_cons, digits?, digitValue?_digitChar hds.1]
    simp only [digits?_map hds.2, Option.map_some]
  unfold readChars
  rw [List.map_cons] at hread ⊢
  rw [hsign, hread]
  simp only
  rw [if_neg (Nat.not_lt.2 hlength), if_neg (fun hne => hne rfl)]

theorem readInteger_integerText {n : Int} {s : String} (h : integerText n = .ok s) :
    readInteger s = .ok n := by
  unfold integerText at h
  split at h
  · cases h
  · rename_i hlength
    obtain rfl := Except.ok.inj h
    have hdigits : ∀ d ∈ Digits.ofNat 10 n.natAbs, d < 10 := fun d hd =>
      Digits.lt_of_mem_ofNat (by decide) hd
    have hvalue : Binary64.signed (decide (n < 0)) (Digits.toNat 10 (Digits.ofNat 10 n.natAbs)) =
        n := by
      rw [Digits.toNat_ofNat]
      unfold Binary64.signed
      split <;> rename_i hsign
      · have hnegative := of_decide_eq_true hsign
        omega
      · have hnonneg := of_decide_eq_false (Bool.not_eq_true _ ▸ hsign)
        omega
    obtain ⟨d, ds, hne⟩ := List.exists_cons_of_ne_nil (Digits.ofNat_ne_nil 10 n.natAbs)
    rw [hne] at hlength hdigits hvalue
    have hread := readChars_digits hdigits (Nat.not_lt.1 hlength) (decide (n < 0))
    rw [hvalue] at hread
    unfold readInteger Digits.decimal Digits.text
    rw [String.toList_ofList, hne]
    simpa only [decide_eq_true_eq] using hread

/-! ## Texts of no integer -/

/-- A character that may stand in the text of an integer. -/
def IsIntegerChar (c : Char) : Prop :=
  Text.isBlank c = true ∨ c = '-' ∨ c = '+' ∨ c = '_' ∨ (Text.digitValue? c).isSome

theorem isIntegerChar_of_digits? {afterDigit : Bool} {cs : List Char} {ds : List Nat}
    (h : digits? afterDigit cs = some (ds, [])) : ∀ c ∈ cs, IsIntegerChar c := by
  induction cs generalizing afterDigit ds with
  | nil => simp
  | cons c cs ih =>
    rw [List.forall_mem_cons]
    unfold digits? at h
    cases hc : Text.digitValue? c with
    | some d =>
      rw [hc] at h
      obtain ⟨⟨more, rest⟩, hmore, heq⟩ := Option.map_eq_some_iff.1 h
      obtain ⟨-, rfl⟩ := Prod.mk.inj heq
      exact ⟨by simp [IsIntegerChar, hc], ih hmore⟩
    | none =>
      simp only [hc] at h
      split at h
      · rename_i hunderscore
        split at h
        · exact ⟨by simp [IsIntegerChar, hunderscore], ih h⟩
        · cases h
      · split at h <;> cases h

theorem mem_trimBy {α : Type} {p : α → Bool} {items : List α} {a : α} (h : a ∈ items)
    (ha : p a = false) : a ∈ Text.trimBy p items := by
  have hdrop : ∀ {items : List α}, a ∈ items → a ∈ items.dropWhile p := by
    intro items hmem
    rw [← List.takeWhile_append_dropWhile (p := p) (l := items), List.mem_append] at hmem
    refine hmem.resolve_left fun htake => ?_
    have htrue := List.all_eq_true.1 List.all_takeWhile a htake
    rw [ha] at htrue
    cases htrue
  unfold Text.trimBy
  rw [List.mem_reverse]
  exact hdrop (List.mem_reverse.2 (hdrop h))

theorem mem_signAndRest {cs : List Char} {c : Char} (h : c ∈ cs) :
    IsIntegerChar c ∨ c ∈ (signAndRest cs).2 := by
  cases hblank : Text.isBlank c with
  | true => exact .inl (.inl hblank)
  | false =>
    have hmem := mem_trimBy h hblank
    unfold signAndRest
    split
    · rename_i rest heq
      rw [heq] at hmem
      exact (List.mem_cons.1 hmem).imp_left fun hc => .inr (.inl hc)
    · rename_i rest heq
      rw [heq] at hmem
      exact (List.mem_cons.1 hmem).imp_left fun hc => .inr (.inr (.inl hc))
    · exact .inr hmem

theorem isIntegerChar_of_readInteger {s : String} {n : Int} (h : readInteger s = .ok n) :
    ∀ c ∈ s.toList, IsIntegerChar c := by
  intro c hc
  unfold readInteger readChars at h
  split at h
  · cases h
  · rename_i ds rest hdigits
    split at h
    · cases h
    · split at h
      · cases h
      · rename_i hrest
        rw [Decidable.not_not] at hrest
        subst hrest
        exact (mem_signAndRest hc).elim id (isIntegerChar_of_digits? hdigits c)

end Numeral

namespace Binary64

open Numeral

/-- A character that every text of a number has and none of an integer. -/
def IsMark (c : Char) : Prop := c = '.' ∨ c = 'e' ∨ c = 'n'

theorem IsMark.not_isIntegerChar {c : Char} (h : IsMark c) : ¬ IsIntegerChar c := by
  unfold IsIntegerChar
  rcases h with rfl | rfl | rfl <;> decide

theorem exists_mark_layout (ds : List Char) (point : Int) : ∃ c ∈ layout ds point, IsMark c := by
  have hpoint : IsMark '.' := .inl rfl
  have hexponent : ∀ e, 'e' ∈ exponentText e := fun e => List.mem_cons_self
  unfold layout
  split
  · refine ⟨'e', ?_, .inr (.inl rfl)⟩
    split
    · exact List.mem_cons_of_mem _ (hexponent _)
    · exact List.mem_append_right _ (hexponent _)
  · refine ⟨'.', ?_, hpoint⟩
    split
    · simp
    · split <;> simp

theorem exists_mark_magnitudeText {mant exp : Nat} (h : Canonical mant exp) :
    ∃ c ∈ magnitudeText mant exp h, IsMark c := by
  unfold magnitudeText
  simp only
  split
  · exact ⟨'.', by simp, .inl rfl⟩
  · generalize (_ : Int) - 1074 = point
    exact exists_mark_layout _ point

theorem exists_mark (x : Binary64) : ∃ c ∈ x.chars, IsMark c := by
  match x with
  | .nan => exact ⟨'n', by simp [chars], .inr (.inr rfl)⟩
  | .infinite negative =>
    refine ⟨'n', ?_, .inr (.inr rfl)⟩
    cases negative <;> simp [chars]
  | .finite negative mant exp h =>
    obtain ⟨c, hc, hmark⟩ := exists_mark_magnitudeText h
    refine ⟨c, ?_, hmark⟩
    rw [chars]
    split
    · exact List.mem_cons_of_mem _ hc
    · exact hc

theorem readInteger_text (x : Binary64) : ∃ cause, readInteger x.text = .error cause := by
  obtain ⟨c, hc, hmark⟩ := x.exists_mark
  cases hread : readInteger x.text with
  | error cause => exact ⟨cause, rfl⟩
  | ok n =>
    refine absurd (isIntegerChar_of_readInteger hread c ?_) hmark.not_isIntegerChar
    rwa [text, String.toList_ofList]

end Binary64

end SpanExport
