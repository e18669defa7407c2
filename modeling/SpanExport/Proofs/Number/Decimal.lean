import Mathlib.Algebra.Order.Field.Power
import Mathlib.Data.Rat.Cast.Order
import Mathlib.Tactic.FieldSimp
import Mathlib.Tactic.Linarith
import SpanExport.Number.Decimal
import SpanExport.Proofs.Number.Digits
import SpanExport.Proofs.Number.Rational

/-!
# Decimals that are read

A decimal is read as the number that its value is rounded to, in whatever digits and with whatever
exponent it is written. The limits on its magnitude do not matter, since they are far from all
numbers but zero.
-/

namespace SpanExport

/-! ## Magnitudes of numbers -/

namespace Binary64

variable {num den mant exp : Nat}

theorem lt_of_roundedUnits (h : Canonical mant exp) (hden : 0 < den)
    (hunits : roundedUnits num den = units mant exp) :
    ∃ bits ≤ 2098, num * unitsPerOne < 2 ^ bits * den := by
  have hmin := le_roundDiv_binade num den
  have hhigh := lt_of_binade (num * unitsPerOne / den)
  have hexp : binade (num * unitsPerOne / den) ≤ 2045 := by
    unfold roundedUnits at hunits
    simp only [Nat.pow_eq] at hunits
    generalize binade (num * unitsPerOne / den) = exp' at *
    refine Nat.le_of_not_lt fun hlarge => ?_
    have hexp := h.2.2
    exact Nat.ne_of_gt (h.units_lt_units (hmin (by omega)) (by omega)) hunits
  rw [Nat.div_lt_iff_lt_mul (Nat.two_pow_pos _), ← Nat.pow_add] at hhigh
  exact ⟨53 + binade (num * unitsPerOne / den), by omega, (Nat.div_lt_iff_lt_mul hden).1 hhigh⟩

theorem le_of_roundedUnits (hden : 0 < den) (hunits : roundedUnits num den ≠ 0) :
    den ≤ 2 * (num * unitsPerOne) := by
  refine Nat.le_of_not_lt fun hsmall => hunits ?_
  have hquotient : num * unitsPerOne / den = 0 := Nat.div_eq_of_lt (by omega)
  have hbounds := (roundedUnits_bounds num hden).2
  have hbinade : binade 0 = 0 := by decide
  rw [hquotient, hbinade, Nat.pow_zero, Nat.mul_one] at hbounds
  have hless : roundedUnits num den * den < 1 * den := by omega
  exact Nat.lt_one_iff.1 (Nat.lt_of_mul_lt_mul_right hless)

theorem ne_zero_of_roundedUnits (hden : 0 < den) (hmant : mant ≠ 0)
    (hunits : roundedUnits num den = units mant exp) : roundedUnits num den ≠ 0 ∧ num ≠ 0 := by
  have hpositive : roundedUnits num den ≠ 0 := by
    rw [hunits]
    exact Nat.mul_ne_zero hmant (Nat.ne_of_gt (Nat.two_pow_pos exp))
  refine ⟨hpositive, ?_⟩
  rintro rfl
  have hle := le_of_roundedUnits hden hpositive
  rw [Nat.zero_mul] at hle
  omega

end Binary64

/-! ## Values of decimals -/

namespace Decimal

def toRat (d : Decimal) : ℚ := d.coefficient * 10 ^ d.exponent

variable {d : Decimal} {num den : Nat}

theorem toRat_lt (d : Decimal) : d.toRat < 10 ^ d.magnitude := by
  have hdigits : (d.coefficient : ℚ) < 10 ^ (Digits.ofNat 10 d.coefficient).length := by
    exact_mod_cast Digits.lt_pow_length (by omega) d.coefficient
  have hpow : (0 : ℚ) < 10 ^ d.exponent := zpow_pos (by norm_num) _
  unfold toRat magnitude
  rw [zpow_add₀ (by norm_num), zpow_natCast]
  exact mul_lt_mul_of_pos_right hdigits hpow

theorem le_toRat (h : d.coefficient ≠ 0) : 10 ^ (d.magnitude - 1) ≤ d.toRat := by
  have hlength : 1 ≤ (Digits.ofNat 10 d.coefficient).length :=
    List.length_pos_iff.2 (Digits.ofNat_ne_nil 10 d.coefficient)
  have hdigits : (10 : ℚ) ^ ((Digits.ofNat 10 d.coefficient).length - 1) ≤ d.coefficient := by
    exact_mod_cast Digits.pow_length_le (by omega) h
  have hpow : (0 : ℚ) < 10 ^ d.exponent := zpow_pos (by norm_num) _
  have hexponent : d.magnitude - 1 =
      ((Digits.ofNat 10 d.coefficient).length - 1 : Nat) + d.exponent := by
    unfold magnitude
    omega
  unfold toRat
  rw [hexponent, zpow_add₀ (by norm_num), zpow_natCast]
  exact mul_le_mul_of_nonneg_right hdigits hpow.le

/-! ## Reading -/

theorem two_pow_le_ten_pow {k n : Nat} (h : k ≤ 3 * n) : (2 : ℚ) ^ k ≤ 10 ^ n := by
  calc (2 : ℚ) ^ k ≤ 2 ^ (3 * n) := pow_le_pow_right₀ (by norm_num) h
    _ = (2 ^ 3) ^ n := pow_mul 2 3 n
    _ ≤ 10 ^ n := pow_le_pow_left₀ (by norm_num) (by norm_num) n

theorem magnitude_le (n unitBits bits : Nat) (hd : d.coefficient ≠ 0)
    (hbits : bits ≤ 3 * n + unitBits) (h : d.toRat * 2 ^ unitBits < 2 ^ bits) :
    d.magnitude ≤ n := by
  by_contra hlarge
  have hten : (10 : ℚ) ^ n ≤ d.toRat := by
    rw [← zpow_natCast]
    exact (zpow_le_zpow_right₀ (by norm_num) (by omega)).trans (le_toRat hd)
  have htwo : (2 : ℚ) ^ (3 * n) ≤ d.toRat := (two_pow_le_ten_pow le_rfl).trans hten
  have hbeyond : (2 : ℚ) ^ bits ≤ 2 ^ (3 * n) * 2 ^ unitBits := by
    rw [← pow_add]
    exact pow_le_pow_right₀ (by norm_num) hbits
  have hunits : (2 : ℚ) ^ (3 * n) * 2 ^ unitBits ≤ d.toRat * 2 ^ unitBits :=
    mul_le_mul_of_nonneg_right htwo (by positivity)
  linarith

theorem le_magnitude (n unitBits : Nat) (hbits : unitBits ≤ 3 * n)
    (h : 1 ≤ d.toRat * 2 ^ unitBits) : -(n : ℤ) ≤ d.magnitude := by
  by_contra hsmall
  have hten : d.toRat < (10 ^ n)⁻¹ := by
    rw [← zpow_natCast, ← zpow_neg]
    exact (toRat_lt d).trans_le (zpow_le_zpow_right₀ (by norm_num) (by omega))
  have hpow : (0 : ℚ) < 10 ^ n := by positivity
  have hless : d.toRat * 2 ^ unitBits < 1 := by
    calc d.toRat * 2 ^ unitBits < (10 ^ n)⁻¹ * 2 ^ unitBits :=
          mul_lt_mul_of_pos_right hten (by positivity)
      _ ≤ (10 ^ n)⁻¹ * 10 ^ n :=
          mul_le_mul_of_nonneg_left (two_pow_le_ten_pow hbits) (inv_nonneg.2 hpow.le)
      _ = 1 := inv_mul_cancel₀ hpow.ne'
  linarith

variable {mant exp : Nat}

theorem magnitude_bounds (h : Canonical mant exp) (hden : 0 < den) (hvalue : d.toRat * den = num)
    (hmant : mant ≠ 0) (hunits : Binary64.roundedUnits num den = Binary64.units mant exp) :
    d.coefficient ≠ 0 ∧ -400 ≤ d.magnitude ∧ d.magnitude ≤ 400 := by
  have hdenQ : (0 : ℚ) < den := by exact_mod_cast hden
  obtain ⟨hpositive, hnum⟩ := Binary64.ne_zero_of_roundedUnits hden hmant hunits
  have hcoefficient : d.coefficient ≠ 0 := by
    intro hzero
    rw [toRat, hzero, Nat.cast_zero, zero_mul, zero_mul] at hvalue
    exact hnum (by exact_mod_cast hvalue.symm)
  refine ⟨hcoefficient, ?_, ?_⟩
  · refine le_magnitude 400 (1074 + 1) (by omega) ?_
    rw [pow_succ, ← Binary64.unitsPerOne_cast]
    refine le_of_mul_le_mul_right ?_ hdenQ
    have hle := Binary64.le_of_roundedUnits hden hpositive
    have hleQ : (den : ℚ) ≤ 2 * (num * unitsPerOne) := by exact_mod_cast hle
    rw [← hvalue] at hleQ
    linarith
  · obtain ⟨bits, hbits, hlt⟩ := Binary64.lt_of_roundedUnits h hden hunits
    refine magnitude_le 400 1074 bits hcoefficient (by omega) ?_
    rw [← Binary64.unitsPerOne_cast]
    refine lt_of_mul_lt_mul_right ?_ hdenQ.le
    rw [mul_right_comm, hvalue]
    exact_mod_cast hlt

theorem scaled_mul_eq (hvalue : d.toRat * den = num) (hexponent : 0 ≤ d.exponent) :
    d.coefficient * 10 ^ d.exponent.toNat * den = num := by
  have hpow : (10 : ℚ) ^ d.exponent = 10 ^ d.exponent.toNat := by
    rw [← zpow_natCast, Int.toNat_of_nonneg hexponent]
  rw [toRat, hpow] at hvalue
  exact_mod_cast hvalue

theorem coefficient_mul_eq (hvalue : d.toRat * den = num) (hexponent : d.exponent ≤ 0) :
    d.coefficient * den = num * 10 ^ (-d.exponent).toNat := by
  have hpow : (10 : ℚ) ^ d.exponent * 10 ^ (-d.exponent).toNat = 1 := by
    rw [← zpow_natCast, Int.toNat_of_nonneg (by omega), ← zpow_add₀ (by norm_num),
      add_neg_cancel, zpow_zero]
  have hcross : (d.coefficient : ℚ) * den = num * 10 ^ (-d.exponent).toNat := by
    rw [← hvalue, toRat, mul_right_comm _ (den : ℚ), mul_assoc _ (10 ^ d.exponent), hpow, mul_one]
  exact_mod_cast hcross

/-- A decimal with the value of a quotient is read as the number that the quotient is rounded to. -/
theorem toBinary64_eq_finite {h : Canonical mant exp} (hden : 0 < den)
    (hvalue : d.toRat * den = num) (hmant : mant ≠ 0)
    (hunits : Binary64.roundedUnits num den = Binary64.units mant exp) (negative : Bool) :
    d.toBinary64 negative = .finite negative mant exp h := by
  obtain ⟨hcoefficient, hsmall, hlarge⟩ := magnitude_bounds h hden hvalue hmant hunits
  unfold toBinary64
  rw [if_neg (by omega), if_neg (by omega)]
  split
  · rename_i hexponent
    have hnum := scaled_mul_eq hvalue hexponent
    refine Binary64.ofRatio_eq_finite_iff.2 (.trans ?_ hunits)
    exact Binary64.roundedUnits_congr (by omega) hden (by rw [Nat.pow_eq, Nat.mul_one, hnum])
  · rename_i hexponent
    have hcross := coefficient_mul_eq hvalue (by omega)
    refine Binary64.ofRatio_eq_finite_iff.2 (.trans ?_ hunits)
    exact Binary64.roundedUnits_congr (Nat.pow_pos (by omega)) hden hcross

end Decimal

end SpanExport
