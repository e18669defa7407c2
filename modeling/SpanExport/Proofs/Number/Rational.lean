import Mathlib.Algebra.Order.Field.Rat
import Mathlib.Data.Rat.Cast.Order
import Mathlib.Tactic.Linarith
import SpanExport.Proofs.Number.Nearest

/-!
# Values of numbers

A finite number stands for a rational number, its signed units over the units of one.
-/

namespace SpanExport.Binary64

/-- The value of a finite number. -/
def toRat? : Binary64 → Option ℚ
  | .finite negative mant exp _ => some (signed negative (units mant exp) / unitsPerOne)
  | _ => none

theorem unitsPerOne_cast : (unitsPerOne : ℚ) = 2 ^ 1074 := by
  unfold unitsPerOne
  generalize 1074 = bits
  simp

theorem unitsPerOne_cast_pos : (0 : ℚ) < unitsPerOne := by
  exact_mod_cast unitsPerOne_pos

@[simp] theorem cast_signed_false (n : Nat) : (signed false n : ℚ) = n := by simp [signed]

@[simp] theorem cast_signed_true (n : Nat) : (signed true n : ℚ) = -n := by simp [signed]

theorem toRat?_unsigned {mant exp : Nat} (h : Canonical mant exp) :
    (Binary64.finite false mant exp h).toRat? = some ((units mant exp : ℚ) / unitsPerOne) := by
  rw [toRat?, cast_signed_false]

theorem toRat?_negative {mant exp : Nat} (h : Canonical mant exp) :
    (Binary64.finite true mant exp h).toRat? = some (-((units mant exp : ℚ) / unitsPerOne)) := by
  rw [toRat?, cast_signed_true, neg_div]

theorem toRat?_zero : zero.toRat? = some 0 := by
  have hunits : units 0 0 = 0 := rfl
  rw [zero, signedZero, toRat?_unsigned, hunits, Nat.cast_zero, zero_div]

theorem toRat?_finite {mant exp k : Nat} (h : Canonical mant exp) (hk : k + exp = 1074) :
    (Binary64.finite false mant exp h).toRat? = some ((mant : ℚ) / 2 ^ k) := by
  have hpow : (2 : ℚ) ^ exp ≠ 0 := pow_ne_zero exp (by norm_num)
  rw [toRat?_unsigned, units, unitsPerOne_eq hk, Nat.pow_eq]
  push_cast
  rw [pow_add, mul_div_mul_right _ _ hpow]

theorem eq_finite_of_toRat? {x : Binary64} {a : ℚ} (h : x.toRat? = some a) (ha : 0 < a) :
    ∃ mant exp, ∃ canonical : Canonical mant exp, x = .finite false mant exp canonical ∧
      a * unitsPerOne = units mant exp ∧ 0 < units mant exp := by
  have hone := unitsPerOne_cast_pos
  match x with
  | .finite negative mant exp canonical =>
    obtain rfl := Option.some.inj h
    have hsigned : (0 : ℚ) < signed negative (units mant exp) := by
      have := mul_pos ha hone
      rwa [div_mul_cancel₀ _ hone.ne'] at this
    cases negative with
    | true =>
      rw [cast_signed_true] at hsigned
      exact absurd hsigned (not_lt.2 (neg_nonpos.2 (Nat.cast_nonneg _)))
    | false =>
      rw [cast_signed_false] at hsigned ⊢
      exact ⟨mant, exp, canonical, rfl, div_mul_cancel₀ _ hone.ne', by exact_mod_cast hsigned⟩

/-- The value lies between zero and one, ends included. -/
def IsPortion (x : Binary64) : Prop := ∃ a, x.toRat? = some a ∧ 0 ≤ a ∧ a ≤ 1

theorem inUnitInterval_iff (x : Binary64) : x.inUnitInterval = true ↔ x.IsPortion := by
  have hone := unitsPerOne_cast_pos
  cases x with
  | nan => simp [inUnitInterval, IsPortion, toRat?]
  | infinite negative => cases negative <;> simp [inUnitInterval, IsPortion, toRat?]
  | finite negative mant exp canonical =>
    simp only [IsPortion, toRat?, Option.some.injEq, exists_eq_left']
    cases negative with
    | false =>
      have hnonneg : (0 : ℚ) ≤ units mant exp / unitsPerOne :=
        div_nonneg (Nat.cast_nonneg _) hone.le
      simp only [inUnitInterval, decide_eq_true_eq, signed, Bool.false_eq_true, if_false,
        Int.cast_natCast, hnonneg, true_and, div_le_one₀ hone, Nat.cast_le]
    | true =>
      have hunits : units mant exp = 0 ↔ mant = 0 := by simp [units]
      have hnonpos : -(units mant exp : ℚ) / unitsPerOne ≤ 0 :=
        div_nonpos_of_nonpos_of_nonneg (by simp) hone.le
      simp only [inUnitInterval, beq_iff_eq, signed, if_true, Int.cast_neg, Int.cast_natCast]
      rw [← hunits]
      constructor
      · intro hzero
        rw [hzero, Nat.cast_zero, neg_zero, zero_div]
        exact ⟨le_refl 0, zero_le_one⟩
      · rintro ⟨hle, -⟩
        rcases div_eq_zero_iff.1 (le_antisymm hnonpos hle) with hzero | hzero
        · exact_mod_cast neg_eq_zero.1 hzero
        · exact absurd hzero hone.ne'

end SpanExport.Binary64
