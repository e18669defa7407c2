import SpanExport.Proofs.Number.Closest

/-!
# Accuracy

What follows for a number from being nearest to a quotient. No other value is, the value does not
decrease when the quotient grows, and a quotient that is a value itself is met exactly, as whole
numbers up to `2 ^ 53` are. Well inside the range the error is at most `2 ^ -53` of the quotient.
-/

namespace SpanExport

/-! ## Neighbours -/

/-- Two numbers with even mantissas are not next to each other. -/
theorem Canonical.succ_between {mant exp mant' exp' : Nat} (h : Canonical mant exp)
    (h' : Canonical mant' exp') (heven : mant % 2 = 0) (heven' : mant' % 2 = 0)
    (hlt : Binary64.units mant exp < Binary64.units mant' exp') :
    Canonical (mant + 1) exp ∧ Binary64.units mant exp < Binary64.units (mant + 1) exp ∧
      Binary64.units (mant + 1) exp < Binary64.units mant' exp' := by
  have hpow : 0 < Nat.pow 2 exp := Nat.two_pow_pos exp
  have hbits := h.1
  simp only [Nat.pow_eq] at hbits
  have hnext : Canonical (mant + 1) exp :=
    ⟨by simp only [Nat.pow_eq]; omega, h.2.1.imp_right Nat.le_succ_of_le, h.2.2⟩
  refine ⟨hnext, Nat.mul_lt_mul_of_pos_right (Nat.lt_succ_self mant) hpow, ?_⟩
  rcases Nat.lt_trichotomy exp exp' with hexp | rfl | hexp
  · exact hnext.units_lt_units (h'.2.1.resolve_left (by omega)) hexp
  · have hmant : mant < mant' := Nat.lt_of_mul_lt_mul_right hlt
    exact Nat.mul_lt_mul_of_pos_right (by omega) hpow
  · exact absurd (h'.units_lt_units (h.2.1.resolve_left (by omega)) hexp) (Nat.not_lt.2 hlt.le)

namespace Binary64

variable {x y : Binary64} {q r a b : ℚ}

theorem exists_units_of_nonneg (hx : x.toRat? = some a) (ha : 0 ≤ a) :
    ∃ mant exp, Canonical mant exp ∧ a = units mant exp / unitsPerOne ∧
      (x.HasEvenMantissa → mant % 2 = 0) := by
  match x with
  | .finite false mant exp h =>
    exact ⟨mant, exp, h, Option.some.inj (hx.symm.trans (toRat?_unsigned h)), id⟩
  | .finite true mant exp h =>
    have hvalue := Option.some.inj (hx.symm.trans (toRat?_negative h))
    have hunits : (0 : ℚ) ≤ units mant exp / unitsPerOne :=
      div_nonneg (Nat.cast_nonneg _) unitsPerOne_cast_pos.le
    exact ⟨mant, exp, h, by linarith, id⟩

theorem exists_between_of_nonneg (hx : x.toRat? = some a) (hy : y.toRat? = some b)
    (heven : x.HasEvenMantissa) (heven' : y.HasEvenMantissa) (ha : 0 ≤ a) (hlt : a < b) :
    ∃ (z : Binary64) (c : ℚ), z.toRat? = some c ∧ a < c ∧ c < b := by
  obtain ⟨mant, exp, h, rfl, hmant⟩ := exists_units_of_nonneg hx ha
  obtain ⟨mant', exp', h', rfl, hmant'⟩ := exists_units_of_nonneg hy (ha.trans hlt.le)
  have hone := unitsPerOne_cast_pos
  rw [div_lt_div_iff_of_pos_right hone, Nat.cast_lt] at hlt
  obtain ⟨hnext, hmore, hless⟩ := h.succ_between h' (hmant heven) (hmant' heven') hlt
  refine ⟨_, _, toRat?_unsigned hnext, ?_⟩
  rw [div_lt_div_iff_of_pos_right hone, div_lt_div_iff_of_pos_right hone, Nat.cast_lt, Nat.cast_lt]
  exact ⟨hmore, hless⟩

theorem exists_between (hx : x.toRat? = some a) (hy : y.toRat? = some b)
    (heven : x.HasEvenMantissa) (heven' : y.HasEvenMantissa) (hlt : a < b) :
    ∃ (z : Binary64) (c : ℚ), z.toRat? = some c ∧ a < c ∧ c < b := by
  rcases le_or_gt 0 a with ha | ha
  · exact exists_between_of_nonneg hx hy heven heven' ha hlt
  rcases lt_or_ge 0 b with hb | hb
  · exact ⟨zero, 0, toRat?_zero, ha, hb⟩
  · obtain ⟨z, c, hz, hmore, hless⟩ := exists_between_of_nonneg (toRat?_neg_of_some hy)
      (toRat?_neg_of_some hx) ((hasEvenMantissa_neg y).2 heven') ((hasEvenMantissa_neg x).2 heven)
      (neg_nonneg.2 hb) (neg_lt_neg hlt)
    exact ⟨z.neg, -c, toRat?_neg_of_some hz, by linarith, by linarith⟩

/-! ## Nearest values -/

namespace IsNearest

theorem abs_sub_le (hx : x.IsNearest q) (ha : x.toRat? = some a) (hb : y.toRat? = some b) :
    |q - a| ≤ |q - b| := by
  obtain ⟨a', ha', hclosest⟩ := hx
  obtain rfl : a' = a := Option.some.inj (ha'.symm.trans ha)
  by_cases heq : b = a'
  · rw [heq]
  · exact (hclosest y b hb heq).elim le_of_lt fun htie => htie.1.le

theorem hasEvenMantissa (hx : x.IsNearest q) (ha : x.toRat? = some a) (hb : y.toRat? = some b)
    (hne : b ≠ a) (htie : |q - a| = |q - b|) : x.HasEvenMantissa := by
  obtain ⟨a', ha', hclosest⟩ := hx
  obtain rfl : a' = a := Option.some.inj (ha'.symm.trans ha)
  exact ((hclosest y b hb hne).resolve_left htie.not_lt).2

theorem not_lt (hx : x.IsNearest q) (hy : y.IsNearest q) (ha : x.toRat? = some a)
    (hb : y.toRat? = some b) : ¬ a < b := by
  intro hlt
  have htie : |q - a| = |q - b| := le_antisymm (hx.abs_sub_le ha hb) (hy.abs_sub_le hb ha)
  -- In a tie both mantissas are even, so there is a number between the values, which is nearer.
  obtain ⟨z, c, hc, hmore, hless⟩ := exists_between ha hb (hx.hasEvenMantissa ha hb hlt.ne' htie)
    (hy.hasEvenMantissa hb ha hlt.ne htie.symm) hlt
  have hmiddle : q = (a + b) / 2 := by
    rcases abs_eq_abs.1 htie with heq | heq <;> linarith
  have hnear := hx.abs_sub_le ha hc
  rw [hmiddle, abs_of_pos (by linarith)] at hnear
  rcases abs_cases ((a + b) / 2 - c) with ⟨habs, -⟩ | ⟨habs, -⟩ <;> linarith

theorem unique (hx : x.IsNearest q) (hy : y.IsNearest q) (ha : x.toRat? = some a)
    (hb : y.toRat? = some b) : a = b :=
  le_antisymm (le_of_not_gt (hy.not_lt hx hb ha)) (le_of_not_gt (hx.not_lt hy ha hb))

theorem le_of_le (hx : x.IsNearest q) (hy : y.IsNearest r) (ha : x.toRat? = some a)
    (hb : y.toRat? = some b) (hle : q ≤ r) : a ≤ b := by
  by_contra hlt
  have hnear := hx.abs_sub_le ha hb
  have hnear' := hy.abs_sub_le hb ha
  -- Otherwise `q` is at or above the middle of both values, and `r` at or below it.
  have hmiddle : (a + b) / 2 ≤ q := by
    rcases abs_cases (q - a) with hqa | hqa <;> rcases abs_cases (q - b) with hqb | hqb <;> linarith
  have hmiddle' : r ≤ (a + b) / 2 := by
    rcases abs_cases (r - a) with hra | hra <;> rcases abs_cases (r - b) with hrb | hrb <;> linarith
  obtain rfl : q = r := by linarith
  exact hlt (hx.unique hy ha hb).le

theorem le_value (hx : x.IsNearest q) (ha : x.toRat? = some a) (hb : y.toRat? = some b)
    (hle : q ≤ b) : a ≤ b := by
  have hnear := hx.abs_sub_le ha hb
  rw [abs_sub_comm, abs_sub_comm q b, abs_of_nonneg (sub_nonneg.2 hle)] at hnear
  linarith [le_abs_self (a - q)]

theorem value_le (hx : x.IsNearest q) (ha : x.toRat? = some a) (hb : y.toRat? = some b)
    (hle : b ≤ q) : b ≤ a := by
  have hnear := hx.abs_sub_le ha hb
  rw [abs_of_nonneg (sub_nonneg.2 hle)] at hnear
  linarith [le_abs_self (q - a)]

theorem toRat?_eq (hx : x.IsNearest q) (hy : y.toRat? = some q) : x.toRat? = some q := by
  obtain ⟨a, ha⟩ := hx.exists_toRat?
  rw [ha, le_antisymm (hx.le_value ha hy le_rfl) (hx.value_le ha hy le_rfl)]

end IsNearest

/-! ## Whole numbers -/

theorem exists_canonical {k : Nat} (hk : k ≤ 2 ^ 53) :
    ∃ mant exp, Canonical mant exp ∧ units mant exp = k * unitsPerOne := by
  obtain ⟨low, hlow⟩ : ∃ low, low = 1022 := ⟨_, rfl⟩
  have hunit : unitsPerOne = 2 ^ 52 * 2 ^ low := by
    rw [unitsPerOne_eq (show 52 + low = 1074 by omega), Nat.pow_add]
  rcases Nat.eq_zero_or_pos k with rfl | hpositive
  · exact ⟨0, 0, by decide, by simp [units]⟩
  rcases Nat.lt_or_eq_of_le hk with hless | rfl
  · -- All bits of the mantissa are used: `k` is shifted up to them.
    have hlog : k.log2 < 53 := (Nat.log2_lt hpositive.ne').2 hless
    obtain ⟨shift, hshift⟩ : ∃ shift, k.log2 + shift = 52 := ⟨52 - k.log2, by omega⟩
    have hlower : 2 ^ 52 ≤ k * 2 ^ shift := by
      rw [← hshift, Nat.pow_add]
      exact Nat.mul_le_mul_right _ (Nat.log2_self_le hpositive.ne')
    have hupper : k * 2 ^ shift < 2 ^ 53 := by
      rw [show 53 = k.log2 + 1 + shift by omega, Nat.pow_add]
      exact Nat.mul_lt_mul_of_pos_right Nat.lt_log2_self (Nat.two_pow_pos _)
    refine ⟨k * 2 ^ shift, low + k.log2, ⟨hupper, .inr hlower, by omega⟩, ?_⟩
    rw [units, Nat.pow_eq, hunit, ← hshift, Nat.pow_add 2 low, Nat.pow_add 2 k.log2]
    ring
  · refine ⟨2 ^ 52, low + 53, ⟨by decide, .inr (by decide), by omega⟩, ?_⟩
    rw [units, Nat.pow_eq, hunit, Nat.pow_add 2 low]
    ring

theorem exists_toRat?_natCast {k : Nat} (hk : k ≤ 2 ^ 53) :
    ∃ y : Binary64, y.toRat? = some (k : ℚ) := by
  obtain ⟨mant, exp, h, hunits⟩ : ∃ mant exp, Canonical mant exp ∧
      units mant exp = k * unitsPerOne := exists_canonical hk
  have hone := unitsPerOne_cast_pos
  refine ⟨.finite false mant exp h, ?_⟩
  have hvalue : (units mant exp : ℚ) / unitsPerOne = k := by
    rw [hunits, Nat.cast_mul, mul_div_cancel_right₀ _ hone.ne']
  rw [toRat?_unsigned, hvalue]

theorem exists_toRat?_intCast {k : Int} (hk : k.natAbs ≤ 2 ^ 53) :
    ∃ y : Binary64, y.toRat? = some (k : ℚ) := by
  obtain ⟨y, hy⟩ := exists_toRat?_natCast hk
  rcases Int.natAbs_eq k with heq | heq
  · refine ⟨y, ?_⟩
    rw [hy, heq]
    simp
  · refine ⟨y.neg, ?_⟩
    rw [toRat?_neg_of_some hy, heq]
    simp

theorem toRat?_one : one.toRat? = some 1 := by
  have hunits : units (Nat.pow 2 52) 1022 = unitsPerOne := by decide +kernel
  rw [one, toRat?_unsigned, hunits, div_self unitsPerOne_cast_pos.ne']

/-! ## Errors -/

theorem roundedUnits_error {num den : Nat} (hd : 0 < den)
    (hlow : 2 ^ 52 * den ≤ num * unitsPerOne) :
    2 ^ 53 * gap (num * unitsPerOne) den (roundedUnits num den) ≤ num * unitsPerOne := by
  have hhalf := roundedUnits_bounds num hd
  have hlast : 2 ^ 52 * (den * 2 ^ binade (num * unitsPerOne / den)) ≤ num * unitsPerOne := by
    by_cases hbinade : binade (num * unitsPerOne / den) = 0
    · rw [hbinade, Nat.pow_zero, Nat.mul_one]
      exact hlow
    · have hbits := le_of_binade hbinade
      rw [Nat.div_div_eq_div_mul] at hbits
      exact (Nat.le_div_iff_mul_le (Nat.mul_pos hd (Nat.two_pow_pos _))).1 hbits
  unfold gap
  omega

theorem IsNearest.error_le_of_pos (hx : x.IsNearest q) (ha : x.toRat? = some a)
    (hlow : 2 ^ 52 ≤ q * unitsPerOne) (hhigh : q < overflowBound) : |q - a| ≤ q / 2 ^ 53 := by
  have hone := unitsPerOne_cast_pos
  have hpositive : 0 < q := pos_of_mul_pos_left (lt_of_lt_of_le (by norm_num) hlow) hone.le
  obtain ⟨num, den, hd, rfl⟩ : ∃ num den : Nat, 0 < den ∧ q = num / den := by
    refine ⟨q.num.toNat, q.den, q.den_pos, ?_⟩
    have hnum : (q.num.toNat : ℤ) = q.num := Int.toNat_of_nonneg (Rat.num_nonneg.2 hpositive.le)
    have hcast : (q.num.toNat : ℚ) = q.num := by exact_mod_cast hnum
    rw [hcast, Rat.num_div_den]
  have hdQ : (0 : ℚ) < den := by exact_mod_cast hd
  rw [div_lt_iff₀ hdQ] at hhigh
  rw [div_mul_eq_mul_div, le_div_iff₀ hdQ] at hlow
  have hbound : num < overflowBound * den := by exact_mod_cast hhigh
  rw [hx.unique (ofRatio_isNearest hd hbound) ha (toRat?_ofRatio hd hbound),
    abs_sub_eq_gap num hd, div_div, div_le_div_iff₀ (mul_pos hdQ hone) (by positivity)]
  have herror := roundedUnits_error hd (by exact_mod_cast hlow)
  have herrorQ : (2 : ℚ) ^ 53 * gap (num * unitsPerOne) den (roundedUnits num den) ≤
      num * unitsPerOne := by exact_mod_cast herror
  calc _ = 2 ^ 53 * gap (num * unitsPerOne) den (roundedUnits num den) * (den : ℚ) := by ring
    _ ≤ num * unitsPerOne * den := mul_le_mul_of_nonneg_right herrorQ hdQ.le
    _ = _ := by ring

theorem IsNearest.error_le (hx : x.IsNearest q) (ha : x.toRat? = some a) (hlow : 1 / 2 ^ 50 ≤ |q|)
    (hhigh : |q| ≤ 2 ^ 53) : |q - a| ≤ |q| / 2 ^ 53 := by
  have hunits : (2 : ℚ) ^ 52 ≤ |q| * unitsPerOne := by
    have hone : 2 ^ 102 ≤ unitsPerOne := by
      obtain ⟨k, hk⟩ : ∃ k, 102 + k = 1074 := ⟨972, rfl⟩
      rw [unitsPerOne_eq hk]
      exact Nat.pow_le_pow_right (by decide) (Nat.le_add_right 102 k)
    calc (2 : ℚ) ^ 52 = 1 / 2 ^ 50 * 2 ^ 102 := by norm_num
      _ ≤ |q| * unitsPerOne :=
        mul_le_mul hlow (by exact_mod_cast hone) (by positivity) (abs_nonneg q)
  have hbelow : |q| < overflowBound := by
    have hbound : (2 ^ 54 - 1 : Nat) * 2 ^ 0 ≤ overflowBound := le_overflowBound 0 (by decide)
    calc |q| ≤ 2 ^ 53 := hhigh
      _ < overflowBound := by exact_mod_cast (show 2 ^ 53 < overflowBound by omega)
  rcases abs_cases q with ⟨habs, -⟩ | ⟨habs, -⟩ <;> rw [habs] at hunits hbelow ⊢
  · exact hx.error_le_of_pos ha hunits hbelow
  · have hopposite := hx.neg.error_le_of_pos (toRat?_neg_of_some ha) hunits hbelow
    rwa [← abs_neg, neg_sub, sub_neg_eq_add, add_comm, ← sub_eq_add_neg] at hopposite

/-! ## Nearest integers -/

/-- Every other integer is farther from `b`, or as far and this one is even. -/
def IsNearestInteger (r : ℤ) (b : ℚ) : Prop :=
  ∀ k : ℤ, k ≠ r → |b - r| < |b - k| ∨ |b - r| = |b - k| ∧ r % 2 = 0

theorem one_sub_le_abs {r k : ℤ} (b : ℚ) (hne : k ≠ r) : 1 - |b - r| ≤ |b - k| := by
  have hapart : (1 : ℚ) ≤ |(r : ℚ) - k| := by
    have hsub : r - k ≠ 0 := sub_ne_zero.2 hne.symm
    exact_mod_cast Int.one_le_abs hsub
  have htriangle := abs_sub_le (r : ℚ) b k
  rw [abs_sub_comm (r : ℚ) b] at htriangle
  linarith

theorem abs_lt_of_lt_half {r k : ℤ} {b : ℚ} (hhalf : |b - r| < 1 / 2) (hne : k ≠ r) :
    |b - r| < |b - k| := by
  have hother := one_sub_le_abs b hne
  linarith

namespace IsNearestInteger

variable {r n : ℤ} {b : ℚ}

theorem of_half (hhalf : |b - r| ≤ 1 / 2) (heven : |b - r| = 1 / 2 → r % 2 = 0) :
    IsNearestInteger r b := by
  intro k hne
  have hother := one_sub_le_abs b hne
  rcases lt_or_eq_of_le (show |b - r| ≤ |b - k| by linarith) with hlt | heq
  · exact .inl hlt
  · exact .inr ⟨heq, heven (by linarith)⟩

theorem eq_of_lt (h : IsNearestInteger r b) (hn : |b - n| < 1 / 2) : n = r := by
  by_contra hne
  have hless := abs_lt_of_lt_half hn (Ne.symm hne)
  rcases h n hne with hlt | ⟨heq, -⟩ <;> linarith

theorem one_le (h : IsNearestInteger r b) (hb : 1 ≤ b) : 1 ≤ r := by
  by_contra hlt
  have hsmall : (r : ℚ) ≤ 0 := by exact_mod_cast Int.le_of_lt_add_one (not_le.1 hlt)
  have hone := h 1 (by omega)
  rw [Int.cast_one, abs_of_nonneg (sub_nonneg.2 hb), abs_of_nonneg (by linarith)] at hone
  rcases hone with hless | ⟨heq, -⟩ <;> linarith

end IsNearestInteger

theorem round?_isNearestInteger {y : Binary64} {b : ℚ} (hb : y.toRat? = some b) :
    ∃ r, y.round? = some r ∧ IsNearestInteger r b := by
  match y with
  | .finite negative mant exp h =>
    obtain rfl := Option.some.inj hb
    have hone := unitsPerOne_cast_pos
    have hdistance : |(signed negative (units mant exp) : ℚ) / unitsPerOne -
          (signed negative (roundDiv (units mant exp) unitsPerOne) : ℤ)| =
        gap (units mant exp) unitsPerOne (roundDiv (units mant exp) unitsPerOne) / unitsPerOne := by
      rw [← abs_div_sub _ unitsPerOne_pos]
      cases negative with
      | false => rw [cast_signed_false, cast_signed_false]
      | true =>
        rw [cast_signed_true, cast_signed_true, neg_div, sub_neg_eq_add, neg_add_eq_sub, abs_sub_comm]
    have hhalf := two_mul_gap_le (units mant exp) unitsPerOne_pos
    refine ⟨_, rfl, .of_half ?_ fun htie => ?_⟩
    · rw [hdistance, div_le_iff₀ hone]
      have hhalfQ : (2 : ℚ) * gap (units mant exp) unitsPerOne
          (roundDiv (units mant exp) unitsPerOne) ≤ unitsPerOne := by exact_mod_cast hhalf
      linarith
    · rw [hdistance, div_eq_iff hone.ne'] at htie
      have htieQ : (2 : ℚ) * gap (units mant exp) unitsPerOne
          (roundDiv (units mant exp) unitsPerOne) = unitsPerOne := by linarith
      have heven := even_of_two_mul_gap unitsPerOne_pos (by exact_mod_cast htieQ)
      unfold signed
      split <;> omega

end Binary64

end SpanExport
