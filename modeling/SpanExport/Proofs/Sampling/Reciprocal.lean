import SpanExport.Proofs.Number.Accuracy
import SpanExport.Proofs.Sampling.Agreement

/-!
# Reciprocals

The rate for a fraction is the integer nearest to the number nearest to its inverse. There is none
up to `2 ^ -1024`, where the inverse is rounded beyond the largest number. For the number nearest to
one over `n` the three roundings cancel, up to an `n` of `2 ^ 50`.
-/

namespace SpanExport.Sampling

open Binary64

variable {x : Binary64} {a b n : ℚ}

/-! ## Inverses -/

theorem unitsPerOne_lt_iff {u : Nat} : unitsPerOne < overflowBound * u ↔ 2 ^ 50 < u := by
  obtain ⟨low, hlow⟩ : ∃ low, low = 970 := ⟨_, rfl⟩
  have hpow := Nat.two_pow_pos low
  have hone : unitsPerOne = 2 ^ 104 * 2 ^ low := by
    rw [unitsPerOne_eq (show 104 + low = 1074 by omega), Nat.pow_add]
  rw [hone, overflowBound, ← hlow, Nat.pow_eq, Nat.mul_right_comm, Nat.mul_lt_mul_right hpow]
  omega

theorem two_pow_lt_iff {u : Nat} (hu : a * unitsPerOne = u) : 1 / 2 ^ 1024 < a ↔ 2 ^ 50 < u := by
  obtain ⟨low, hlow⟩ : ∃ low, low = 1024 := ⟨_, rfl⟩
  have hpow : (0 : ℚ) < 2 ^ low := by positivity
  have hone : (unitsPerOne : ℚ) = 2 ^ 50 * 2 ^ low := by
    rw [unitsPerOne_eq (show 50 + low = 1074 by omega), Nat.cast_pow, pow_add]
    norm_num
  have hscaled : (2 ^ 50 : ℚ) < u ↔ 1 < a * 2 ^ low := by
    rw [← hu, hone, mul_left_comm]
    exact lt_mul_iff_one_lt_right (by norm_num)
  rw [← hlow, div_lt_iff₀ hpow, ← hscaled]
  exact_mod_cast Iff.rfl

theorem rate_of_zero (hx : x.toRat? = some 0) : rate (.float x) = .ok none := by
  match x with
  | .finite negative mant exp h =>
    have hone := unitsPerOne_cast_pos
    have hmant : mant = 0 := by
      have hunits : (signed negative (units mant exp) : ℚ) = 0 := by
        have hvalue := Option.some.inj hx
        rwa [div_eq_zero_iff, or_iff_left hone.ne'] at hvalue
      cases negative <;> simpa [signed, units] using hunits
    simp [rate, rate?, Value.divisor, Value.quantity?, Quantity.isZero, isZero, hmant, Functor.map,
      Except.map]

theorem one_div_two_pow_le : (1 : ℚ) / 2 ^ 1024 ≤ 1 / 2 ^ 51 := by
  obtain ⟨k, hk⟩ : ∃ k, 51 + k = 1024 := ⟨973, rfl⟩
  rw [← hk]
  exact one_div_pow_le_one_div_pow_of_le one_le_two (Nat.le_add_right 51 k)

theorem rate_cases (hx : x.toRat? = some a) (hlow : 0 ≤ a) (hhigh : a ≤ 1) :
    (a ≤ 1 / 2 ^ 1024 ∧ rate (.float x) = .ok none) ∨
      1 / 2 ^ 1024 < a ∧ ∃ (y : Binary64) (b : ℚ) (r : ℤ), y.IsNearest (1 / a) ∧
        y.toRat? = some b ∧ IsNearestInteger r b ∧ 1 ≤ r ∧ rate (.float x) = .ok (some r) := by
  have hone := unitsPerOne_cast_pos
  rcases hlow.eq_or_lt with rfl | hpositive
  · exact .inl ⟨by positivity, rate_of_zero hx⟩
  obtain ⟨mant, exp, h, rfl, hunits, hu⟩ := eq_finite_of_toRat? hx hpositive
  have hrate : rate (.float (.finite false mant exp h)) =
      .ok (ofRatio false unitsPerOne (units mant exp)).round? :=
    congrArg Except.ok (rate?_finite h hu)
  rcases le_or_gt a (1 / 2 ^ 1024) with hsmall | hlarge
  · have hfew : overflowBound * units mant exp ≤ unitsPerOne := by
      rw [← not_lt, unitsPerOne_lt_iff, ← two_pow_lt_iff hunits, not_lt]
      exact hsmall
    rw [hrate, ofRatio_eq_infinite false hu hfew]
    exact .inl ⟨hsmall, rfl⟩
  · have hbound := unitsPerOne_lt_iff.2 ((two_pow_lt_iff hunits).1 hlarge)
    have hnearest := ofRatio_isNearest hu hbound
    have hinverse : (unitsPerOne : ℚ) / units mant exp = 1 / a := by
      rw [← hunits, div_mul_cancel_right₀ hone.ne', one_div]
    rw [hinverse] at hnearest
    obtain ⟨b, hb⟩ := hnearest.exists_toRat?
    obtain ⟨r, hround, hinteger⟩ := round?_isNearestInteger hb
    -- One is a number, and the inverse is not below it.
    have hatLeast : 1 ≤ b := hnearest.value_le hb toRat?_one (one_le_one_div hpositive hhigh)
    exact .inr ⟨hlarge, _, b, r, hnearest, hb, hinteger, hinteger.one_le hatLeast,
      hrate.trans (congrArg Except.ok hround)⟩

/-! ## Three roundings -/

/-- Both roundings together move the inverse of one over `n` by less than a half. -/
theorem abs_sub_lt_half (hn : 0 < n) (hle : n ≤ 2 ^ 50) (ha : 0 < a)
    (hfraction : |1 / n - a| ≤ 1 / n / 2 ^ 53) (hinverse : |1 / a - b| ≤ 1 / a / 2 ^ 53) :
    |b - n| < 1 / 2 := by
  have hproduct : |1 - n * a| ≤ 1 / 2 ^ 53 := by
    calc |1 - n * a| = n * |1 / n - a| := by
          rw [← congrArg (· * |1 / n - a|) (abs_of_pos hn), ← abs_mul, mul_sub,
            mul_one_div_cancel hn.ne']
      _ ≤ n * (1 / n / 2 ^ 53) := mul_le_mul_of_nonneg_left hfraction hn.le
      _ = 1 / 2 ^ 53 := by rw [← mul_div_assoc, mul_one_div_cancel hn.ne']
  have hquotient : 0 < 1 / a := by positivity
  -- The inverse is less than twice `n`.
  have hless : 1 / a < 2 ^ 51 := by
    have hhalf : 1 / 2 < n * a := by linarith [(abs_le.1 hproduct).2]
    rw [div_lt_iff₀ ha]
    linarith [mul_le_mul_of_nonneg_right hle ha.le]
  have hmoved : |1 / a - n| ≤ 1 / a / 2 ^ 53 := by
    calc |1 / a - n| = 1 / a * |1 - n * a| := by
          rw [← congrArg (· * |1 - n * a|) (abs_of_pos hquotient), ← abs_mul, mul_sub, mul_one,
            mul_left_comm, one_div_mul_cancel ha.ne', mul_one]
      _ ≤ 1 / a * (1 / 2 ^ 53) := mul_le_mul_of_nonneg_left hproduct hquotient.le
      _ = 1 / a / 2 ^ 53 := mul_one_div _ _
  calc |b - n| ≤ |b - 1 / a| + |1 / a - n| := abs_sub_le b (1 / a) n
    _ ≤ 1 / a / 2 ^ 53 + 1 / a / 2 ^ 53 := by
        rw [abs_sub_comm b]
        exact add_le_add hinverse hmoved
    _ < 1 / 2 := by linarith

theorem ofRatio_isNearest_inverse {n : Nat} (hn : 1 ≤ n) :
    (ofRatio false 1 n).IsNearest (1 / n) := by
  have hbound : 1 < overflowBound * n := by
    have hlarge : (2 ^ 54 - 1) * 2 ^ 0 ≤ overflowBound := le_overflowBound 0 (by decide)
    calc 1 < overflowBound := by omega
      _ ≤ overflowBound * n := Nat.le_mul_of_pos_right _ hn
  exact_mod_cast ofRatio_isNearest hn hbound

theorem inverse_bounds_of_isNearest (hn : 1 ≤ n) (hle : n ≤ 2 ^ 50) (hx : x.IsNearest (1 / n))
    (ha : x.toRat? = some a) : |1 / n - a| ≤ 1 / n / 2 ^ 53 ∧ 1 / 2 ^ 51 < a ∧ a ≤ 1 := by
  have hpositive : 0 < 1 / n := by positivity
  have hlow : 1 / 2 ^ 50 ≤ 1 / n := one_div_le_one_div_of_le (by linarith) hle
  have hhigh : 1 / n ≤ 1 := by
    rw [div_le_one (by linarith)]
    exact hn
  have herror := hx.error_le ha (by rwa [abs_of_pos hpositive])
    (by rw [abs_of_pos hpositive]; linarith)
  rw [abs_of_pos hpositive] at herror
  exact ⟨herror, by linarith [(abs_le.1 herror).2], hx.le_value ha toRat?_one hhigh⟩

theorem rate_of_isNearest {n : Nat} (hn : 1 ≤ n) (hle : n ≤ 2 ^ 50) (hx : x.IsNearest (1 / n)) :
    rate (.float x) = .ok (some n) := by
  have hnQ : (1 : ℚ) ≤ n := by exact_mod_cast hn
  have hleQ : (n : ℚ) ≤ 2 ^ 50 := by exact_mod_cast hle
  obtain ⟨a, ha⟩ := hx.exists_toRat?
  obtain ⟨hfraction, hlow, hhigh⟩ := inverse_bounds_of_isNearest hnQ hleQ hx ha
  have hpositive : 0 < a := lt_trans (by norm_num) hlow
  rcases rate_cases ha hpositive.le hhigh with
    ⟨hsmall, -⟩ | ⟨-, y, b, r, hy, hb, hinteger, -, hrate⟩
  · exact absurd (hsmall.trans one_div_two_pow_le) (not_le.2 hlow)
  · have habove : 1 ≤ 1 / a := one_le_one_div hpositive hhigh
    have hbelow : 1 / a ≤ 2 ^ 51 := by
      rw [div_le_iff₀ hpositive]
      linarith
    have habs : |1 / a| = 1 / a := abs_of_pos (by linarith)
    have hinverse := hy.error_le hb (by rw [habs]; linarith) (by rw [habs]; linarith)
    rw [habs] at hinverse
    have hnear := abs_sub_lt_half (by linarith) hleQ hpositive hfraction hinverse
    rw [hrate, hinteger.eq_of_lt (n := n) (by exact_mod_cast hnear)]

end SpanExport.Sampling
