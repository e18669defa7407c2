import SpanExport.Proofs.Number.Decimal
import SpanExport.Proofs.Number.Written

/-!
# The fewest digits

The digits that a number is written with are rounded to it again, wherever the point or the exponent
is put. So every number, infinity or nan reads back from its own text.
-/

namespace SpanExport

/-! ## Digits that are rounded to the number -/

namespace Shortest

theorem coarsest_good (good : Nat → Bool) {n : Nat} (h : good n = true) (k : Nat) :
    good (coarsest good n k) = true := by
  induction k with
  | zero => exact h
  | succ k ih =>
    unfold coarsest
    cases hm : neighbour? good n (k + 1) with
    | none => exact ih
    | some m =>
      unfold neighbour? at hm
      simp only at hm
      split at hm
      · rename_i hbelow
        obtain rfl := Option.some.inj hm
        exact hbelow.1
      · split at hm
        · rename_i habove
          obtain rfl := Option.some.inj hm
          exact habove
        · cases hm

variable {mant exp : Nat}

theorem roundedUnits_scaled (h : Canonical mant exp) :
    Binary64.roundedUnits (scaled mant exp) (Nat.pow 10 1074) = Binary64.units mant exp := by
  rw [← Binary64.roundedUnits_units h]
  unfold scaled unitsPerOne
  generalize 1074 = places
  refine Binary64.roundedUnits_congr (Nat.pow_pos (by omega)) (Nat.pow_pos (by omega)) ?_
  rw [Nat.mul_assoc, Nat.pow_eq, Nat.pow_eq, Nat.pow_eq, ← Nat.mul_pow]

theorem roundedUnits_decimalOf (h : Canonical mant exp) :
    Binary64.roundedUnits (decimalOf mant exp h) (Nat.pow 10 1074) =
      Binary64.units mant exp := by
  have hscaled := roundedUnits_scaled h
  unfold decimalOf
  generalize Nat.pow 10 1074 = den at *
  have hgood := coarsest_good
    (fun m => decide (Binary64.ofRatio false m den = .finite false mant exp h))
    (decide_eq_true (Binary64.ofRatio_eq_finite_iff.2 hscaled))
    ((Digits.ofNat 10 (scaled mant exp)).length - 1)
  exact Binary64.ofRatio_eq_finite_iff.1 (of_decide_eq_true hgood)

theorem stripZeros_eq (cs : List Char) :
    ∃ k, cs = stripZeros cs ++ List.replicate k '0' := by
  have hzeros : ∀ c ∈ cs.reverse.takeWhile (· == '0'), c = '0' := by
    intro c hc
    simpa using List.all_eq_true.1 List.all_takeWhile c hc
  refine ⟨(cs.reverse.takeWhile (· == '0')).length, ?_⟩
  have hsplit := List.takeWhile_append_dropWhile (p := (· == '0')) (l := cs.reverse)
  rw [List.eq_replicate_of_mem hzeros] at hsplit
  have hreverse := congrArg List.reverse hsplit
  rw [List.reverse_append, List.reverse_replicate, List.reverse_reverse] at hreverse
  rw [stripZeros]
  exact hreverse.symm

end Shortest

/-! ## Layouts -/

/-- The text is a written number of this value. -/
def Writes (cs : List Char) (value : ℚ) : Prop :=
  ∃ w : Written, cs = w.chars ∧ w.decimal.toRat = value

namespace Binary64

variable {ds : List Nat}

theorem zeros_lt (k : Nat) : ∀ d ∈ List.replicate k 0, d < 10 := by
  intro d hd
  rw [List.eq_of_mem_replicate hd]
  omega

theorem writes_scientific {d : Nat} (hds : ∀ d' ∈ d :: ds, d' < 10) (point : Int) :
    Writes (Nat.digitChar d :: '.' :: ds.map Nat.digitChar ++ exponentText (point - 1))
      (Digits.toNat 10 (d :: ds) * 10 ^ (point - (d :: ds).length)) := by
  refine ⟨{ whole := [d], part := some ds, exponent := some (point - 1), whole_ne_nil := by simp,
            digit_lt := by simpa using hds }, by simp [Written.chars], ?_⟩
  simp only [Written.decimal, Decimal.toRat, Option.getD_some, List.singleton_append,
    List.length_cons]
  congr 2
  push_cast
  omega

theorem writes_small (hds : ∀ d ∈ ds, d < 10) {point : Int} (hpoint : point ≤ 0) :
    Writes ('0' :: '.' :: List.replicate (-point).toNat '0' ++ ds.map Nat.digitChar)
      (Digits.toNat 10 ds * 10 ^ (point - ds.length)) := by
  have hzero : Nat.digitChar 0 = '0' := rfl
  have hvalue : Digits.toNat 10 ([0] ++ (List.replicate (-point).toNat 0 ++ ds)) =
      Digits.toNat 10 ds :=
    (Digits.toNat_zeros_append 10 1 _).trans (Digits.toNat_zeros_append 10 _ ds)
  refine ⟨{ whole := [0], part := some (List.replicate (-point).toNat 0 ++ ds),
            whole_ne_nil := by simp, digit_lt := ?_ }, by simp [Written.chars, hzero], ?_⟩
  · simp only [Option.getD_some, List.forall_mem_append]
    exact ⟨zeros_lt 1, zeros_lt _, hds⟩
  · simp only [Written.decimal, Decimal.toRat, Option.getD_some, Option.getD_none, hvalue,
      List.length_append, List.length_replicate]
    congr 2
    push_cast
    omega

theorem writes_whole (hds : ∀ d ∈ ds, d < 10) (hne : ds ≠ []) {point : Int} (hpoint : 0 < point)
    (hlength : ds.length ≤ point.toNat) :
    Writes (ds.map Nat.digitChar ++ List.replicate (point.toNat - ds.length) '0' ++ ['.', '0'])
      (Digits.toNat 10 ds * 10 ^ (point - ds.length)) := by
  have hzero : Nat.digitChar 0 = '0' := rfl
  have hvalue := Digits.toNat_append_zeros 10 (point.toNat - ds.length + 1) ds
  have hexponent : (point.toNat - ds.length + 1 : Nat) + ((0 : Int) - (1 : Nat)) =
      point - ds.length := by omega
  rw [List.replicate_succ', ← List.append_assoc] at hvalue
  refine ⟨{ whole := ds ++ List.replicate (point.toNat - ds.length) 0, part := some [0],
            whole_ne_nil := by simp [hne], digit_lt := ?_ }, by simp [Written.chars, hzero], ?_⟩
  · simp only [Option.getD_some, List.forall_mem_append]
    exact ⟨⟨hds, zeros_lt _⟩, zeros_lt 1⟩
  · simp only [Written.decimal, Decimal.toRat, Option.getD_some, Option.getD_none,
      List.length_singleton, hvalue]
    rw [← hexponent, zpow_add₀ (by norm_num), zpow_natCast, ← mul_assoc]
    push_cast
    rfl

theorem writes_split (hds : ∀ d ∈ ds, d < 10) {point : Int} (hpoint : 0 < point)
    (hlength : point.toNat < ds.length) :
    Writes ((ds.map Nat.digitChar).take point.toNat ++
        '.' :: (ds.map Nat.digitChar).drop point.toNat)
      (Digits.toNat 10 ds * 10 ^ (point - ds.length)) := by
  refine ⟨{ whole := ds.take point.toNat, part := some (ds.drop point.toNat),
            whole_ne_nil := ?_, digit_lt := ?_ }, by simp [Written.chars], ?_⟩
  · rw [Ne, List.take_eq_nil_iff]
    rintro (hzero | rfl)
    · omega
    · exact Nat.not_lt_zero _ hlength
  · rwa [Option.getD_some, List.take_append_drop]
  · simp only [Written.decimal, Decimal.toRat, Option.getD_some, Option.getD_none,
      List.take_append_drop, List.length_drop]
    congr 2
    omega

/-- Wherever the point is put, the digits stand for the same value. -/
theorem layout_writes (hds : ∀ d ∈ ds, d < 10) (hne : ds ≠ []) (point : Int) :
    Writes (layout (ds.map Nat.digitChar) point)
      (Digits.toNat 10 ds * 10 ^ (point - ds.length)) := by
  unfold layout
  split
  · match ds, hne with
    | [d], _ =>
      refine ⟨{ whole := [d], exponent := some (point - 1), whole_ne_nil := by simp,
                digit_lt := by simpa using hds }, rfl, ?_⟩
      simp [Written.decimal, Decimal.toRat]
    | d :: d' :: more, _ => exact writes_scientific hds point
  · split
    · rename_i hpoint
      exact writes_small hds hpoint
    · rw [List.length_map]
      split
      · rename_i hlength
        exact writes_whole hds hne (by omega) hlength
      · exact writes_split hds (by omega) (by omega)

/-! ## Reading back -/

open Shortest in
theorem stripZeros_text (n : Nat) : ∃ ds k, (∀ d ∈ ds, d < 10) ∧
    stripZeros (Digits.text 10 n) = ds.map Nat.digitChar ∧
    (Digits.text 10 n).length = ds.length + k ∧ Digits.toNat 10 ds * 10 ^ k = n := by
  obtain ⟨k, htext⟩ := stripZeros_eq (Digits.text 10 n)
  obtain ⟨ds, zeros, hdigits, hds, hzeros⟩ := List.map_eq_append_iff.1 htext
  obtain ⟨hlength, hzero⟩ := List.eq_replicate_iff.1 hzeros
  rw [List.length_map] at hlength
  rw [List.forall_mem_map] at hzero
  have hlt : ∀ d ∈ ds ++ zeros, d < 10 := fun d hd =>
    Digits.lt_of_mem_ofNat (by omega) (hdigits ▸ hd)
  rw [List.forall_mem_append] at hlt
  have hdigit : ∀ d < 10, Nat.digitChar d = '0' → d = 0 := by decide
  have hreplicate : zeros = List.replicate k 0 :=
    List.eq_replicate_iff.2 ⟨hlength, fun d hd => hdigit d (hlt.2 d hd) (hzero d hd)⟩
  refine ⟨ds, k, hlt.1, hds.symm, ?_, ?_⟩
  · rw [Digits.text, List.length_map, hdigits, List.length_append, hlength]
  · rw [← Digits.toNat_append_zeros, ← hreplicate, ← hdigits, Digits.toNat_ofNat]

theorem value_of_point {ds : List Nat} {n k length places : Nat} (hlength : length = ds.length + k)
    (hvalue : Digits.toNat 10 ds * 10 ^ k = n) :
    Digits.toNat 10 ds * (10 : ℚ) ^ ((length - places : Int) - ds.length) * (10 ^ places : Nat) =
      n := by
  have hexponent : (length - places : Int) - ds.length + places = k := by omega
  rw [← hvalue, mul_assoc]
  push_cast
  rw [← zpow_natCast, ← zpow_add₀ (by norm_num), hexponent, zpow_natCast]

variable {mant exp : Nat}

theorem magnitudeText_eq (h : Canonical mant exp) (negative : Bool) :
    ∃ w : Written, magnitudeText mant exp h = w.chars ∧
      w.decimal.toBinary64 negative = .finite negative mant exp h := by
  by_cases hzero : mant = 0
  · obtain rfl : exp = 0 := h.2.1.resolve_right fun hmin => by
      have hpos := Nat.two_pow_pos 52
      exact absurd (hzero ▸ hmin) (Nat.not_le.2 hpos)
    subst hzero
    exact ⟨{ whole := [0], part := some [0], whole_ne_nil := by simp, digit_lt := by simp }, rfl,
      by simp [Written.decimal, Decimal.toBinary64, Digits.toNat, signedZero]⟩
  · have hunits := Shortest.roundedUnits_decimalOf h
    unfold magnitudeText
    rw [if_neg hzero]
    simp only
    generalize Shortest.decimalOf mant exp h = n at *
    obtain ⟨ds, k, hlt, hstrip, hlength, hvalue⟩ := stripZeros_text n
    have hne : ds ≠ [] := by
      rintro rfl
      generalize 1074 = places at hunits
      refine (ne_zero_of_roundedUnits (Nat.pow_pos (by omega)) hzero hunits).2 ?_
      simpa [Digits.toNat] using hvalue.symm
    obtain ⟨w, hchars, hrat⟩ := layout_writes hlt hne ((Digits.text 10 n).length - (1074 : Nat))
    rw [hstrip]
    refine ⟨w, hchars, ?_⟩
    -- How many places there are does not matter from here on.
    generalize 1074 = places at *
    refine Decimal.toBinary64_eq_finite (Nat.pow_pos (by omega)) ?_ hzero hunits negative
    rw [hrat]
    exact value_of_point hlength hvalue

end Binary64

namespace Numeral

theorem readReal?_text (x : Binary64) : readReal? x.text = some x := by
  unfold readReal? Binary64.text
  rw [String.toList_ofList]
  match x with
  | .nan => decide
  | .infinite negative => cases negative <;> decide
  | .finite negative mant exp h =>
    obtain ⟨w, hchars, hvalue⟩ := Binary64.magnitudeText_eq h negative
    rw [Binary64.chars, hchars, w.realChars?_chars, hvalue]

end Numeral

end SpanExport
