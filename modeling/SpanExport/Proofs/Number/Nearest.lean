import Mathlib.Algebra.Group.Nat.Defs
import SpanExport.Proofs.Number.Quotient
import SpanExport.Proofs.Number.Rounding

/-!
# Nearest numbers

A quotient is rounded to a number of units of its own binade. That number of units depends on the
quotient alone and grows with it, and a quotient that is a number already is not changed.
-/

namespace SpanExport

variable {mant exp mant' exp' : Nat}

/-! ## Canonical forms -/

namespace Canonical

theorem units_lt_units (h : Canonical mant exp) (hmant : 2 ^ 52 ≤ mant') (hexp : exp < exp') :
    Binary64.units mant exp < Binary64.units mant' exp' := by
  have hpow : 2 ^ (exp + 1) ≤ 2 ^ exp' := Nat.pow_le_pow_right (by omega) hexp
  calc mant * 2 ^ exp < 2 ^ 53 * 2 ^ exp := Nat.mul_lt_mul_of_pos_right h.1 (Nat.two_pow_pos exp)
    _ = 2 ^ 52 * 2 ^ (exp + 1) := by rw [Nat.pow_succ 2 exp]; omega
    _ ≤ mant' * 2 ^ exp' := Nat.mul_le_mul hmant hpow

theorem binade_units (h : Canonical mant exp) :
    Binary64.binade (Binary64.units mant exp) = exp := by
  obtain ⟨hmant, hexp, -⟩ := h
  have hunits : Binary64.units mant exp = mant * 2 ^ exp := rfl
  unfold Binary64.binade
  rw [hunits]
  rcases hexp with rfl | hmin
  · by_cases hzero : mant = 0
    · subst hzero
      rfl
    · have hlog : mant.log2 < 53 := (Nat.log2_lt hzero).2 hmant
      rw [Nat.pow_zero, Nat.mul_one]
      omega
  · have hpow := Nat.two_pow_pos exp
    have hlow : 2 ^ (52 + exp) ≤ mant * 2 ^ exp := by
      rw [Nat.pow_add]
      exact Nat.mul_le_mul_right _ hmin
    have hhigh : mant * 2 ^ exp < 2 ^ (52 + exp + 1) := by
      rw [show 52 + exp + 1 = 53 + exp by omega, Nat.pow_add]
      exact Nat.mul_lt_mul_of_pos_right hmant hpow
    have hnonzero : mant * 2 ^ exp ≠ 0 := by
      have := Nat.two_pow_pos (52 + exp)
      omega
    rw [(Nat.log2_eq_iff hnonzero).2 ⟨hlow, hhigh⟩]
    omega

theorem two_pow_dvd_units (h : Canonical mant exp) {k : Nat}
    (hlarge : 2 ^ (52 + k) ≤ Binary64.units mant exp) : 2 ^ k ∣ Binary64.units mant exp := by
  have hpositive := Nat.two_pow_pos (52 + k)
  have hlog : 52 + k ≤ (Binary64.units mant exp).log2 :=
    (Nat.le_log2 (by omega)).2 hlarge
  have hexp := h.binade_units
  unfold Binary64.binade at hexp
  exact Nat.dvd_mul_left_of_dvd (Nat.pow_dvd_pow 2 (by omega)) mant

theorem eq_of_units (h : Canonical mant exp) (h' : Canonical mant' exp')
    (hunits : Binary64.units mant exp = Binary64.units mant' exp') : mant = mant' ∧ exp = exp' := by
  have hexp : exp = exp' := by rw [← h.binade_units, hunits, h'.binade_units]
  subst hexp
  exact ⟨Nat.eq_of_mul_eq_mul_right (Nat.two_pow_pos exp) hunits, rfl⟩

end Canonical

namespace Binary64

/-! ## Units of a quotient -/

theorem unitsPerOne_pos : 0 < unitsPerOne := by
  unfold unitsPerOne
  generalize 1074 = bits
  exact Nat.two_pow_pos bits

theorem unitsPerOne_eq {bits : Nat} (h : bits = 1074) : unitsPerOne = 2 ^ bits := by
  unfold unitsPerOne
  rw [← h]
  rfl

/-- The units that a quotient is rounded to, also where that is beyond the largest number. -/
def roundedUnits (num den : Nat) : Nat :=
  let exp := binade (num * unitsPerOne / den)
  units (roundDiv (num * unitsPerOne) (den * Nat.pow 2 exp)) exp

variable {num den num' den' : Nat}

theorem roundedUnits_congr (hd : 0 < den) (hd' : 0 < den') (h : num * den' = num' * den) :
    roundedUnits num den = roundedUnits num' den' := by
  have hunits : num * unitsPerOne * den' = num' * unitsPerOne * den := by
    rw [Nat.mul_right_comm, h, Nat.mul_right_comm]
  have hquotient : num * unitsPerOne / den = num' * unitsPerOne / den' := by
    rw [← Nat.mul_div_mul_right _ den hd', hunits, Nat.mul_comm den den',
      Nat.mul_div_mul_right _ den' hd]
  unfold roundedUnits
  rw [hquotient]
  generalize binade (num' * unitsPerOne / den') = exp
  have hpow : 0 < Nat.pow 2 exp := Nat.two_pow_pos exp
  have hmant : roundDiv (num * unitsPerOne) (den * Nat.pow 2 exp) =
      roundDiv (num' * unitsPerOne) (den' * Nat.pow 2 exp) := by
    apply roundDiv_congr (Nat.mul_pos hd hpow) (Nat.mul_pos hd' hpow)
    rw [← Nat.mul_assoc, hunits, Nat.mul_assoc]
  exact congrArg (units · exp) hmant

theorem roundedUnits_units (h : Canonical mant exp) :
    roundedUnits (units mant exp) unitsPerOne = units mant exp := by
  have hone : 0 < unitsPerOne := unitsPerOne_pos
  have hquotient : units mant exp * unitsPerOne / unitsPerOne = units mant exp :=
    Nat.mul_div_cancel _ hone
  have hmant : units mant exp * unitsPerOne = mant * (unitsPerOne * Nat.pow 2 exp) := by
    rw [units, Nat.mul_assoc, Nat.mul_comm unitsPerOne]
  have hexact := roundDiv_mul mant _ (Nat.mul_pos hone (Nat.two_pow_pos exp))
  unfold roundedUnits
  rw [hquotient, h.binade_units, hmant]
  exact congrArg (units · exp) hexact

/-! ## The mantissa -/

/-- A quotient cut to its own binade and rounded has 53 bits, or one more than that. -/
theorem roundDiv_binade_le (num den : Nat) :
    roundDiv (num * unitsPerOne) (den * 2 ^ binade (num * unitsPerOne / den)) ≤ 2 ^ 53 := by
  have hround := roundDiv_eq_or (num * unitsPerOne) (den * 2 ^ binade (num * unitsPerOne / den))
  have hhigh := lt_of_binade (num * unitsPerOne / den)
  rw [← Nat.div_div_eq_div_mul] at hround
  omega

theorem le_roundDiv_binade (num den : Nat) (h : binade (num * unitsPerOne / den) ≠ 0) :
    2 ^ 52 ≤ roundDiv (num * unitsPerOne) (den * 2 ^ binade (num * unitsPerOne / den)) := by
  have hround := roundDiv_eq_or (num * unitsPerOne) (den * 2 ^ binade (num * unitsPerOne / den))
  have hlow := le_of_binade h
  rw [← Nat.div_div_eq_div_mul] at hround
  omega

theorem binade_mono {q q' : Nat} (h : q ≤ q') : binade q ≤ binade q' := by
  have hlog : q' < 2 ^ (q'.log2 + 1) := Nat.lt_log2_self
  have hle := binade_le (Nat.lt_of_le_of_lt h hlog)
  unfold binade at hle ⊢
  omega

theorem roundedUnits_le_roundedUnits (hd : 0 < den) (hd' : 0 < den')
    (h : num * den' ≤ num' * den) : roundedUnits num den ≤ roundedUnits num' den' := by
  have hunits : num * unitsPerOne * den' ≤ num' * unitsPerOne * den := by
    rw [Nat.mul_right_comm, Nat.mul_right_comm num']
    exact Nat.mul_le_mul_right _ h
  have hquotient : num * unitsPerOne / den ≤ num' * unitsPerOne / den' := by
    rw [← Nat.mul_div_mul_right _ den hd', ← Nat.mul_div_mul_right (num' * _) den' hd,
      Nat.mul_comm den' den]
    exact Nat.div_le_div_right hunits
  have hmax := roundDiv_binade_le num den
  have hmin := le_roundDiv_binade num' den'
  have hbinade := binade_mono hquotient
  unfold roundedUnits units
  simp only [Nat.pow_eq]
  generalize binade (num * unitsPerOne / den) = exp at *
  generalize binade (num' * unitsPerOne / den') = exp' at *
  rcases Nat.lt_or_eq_of_le hbinade with hlt | rfl
  · have hpow : 2 ^ (exp + 1) ≤ 2 ^ exp' := Nat.pow_le_pow_right (by omega) hlt
    calc roundDiv (num * unitsPerOne) (den * 2 ^ exp) * 2 ^ exp
        ≤ 2 ^ 53 * 2 ^ exp := Nat.mul_le_mul_right _ hmax
      _ = 2 ^ 52 * 2 ^ (exp + 1) := by rw [Nat.pow_succ 2 exp]; omega
      _ ≤ _ := Nat.mul_le_mul (hmin (by omega)) hpow
  · have hpow := Nat.two_pow_pos exp
    refine Nat.mul_le_mul_right _ (roundDiv_le_roundDiv (Nat.mul_pos hd hpow)
      (Nat.mul_pos hd' hpow) ?_)
    rw [← Nat.mul_assoc, ← Nat.mul_assoc]
    exact Nat.mul_le_mul_right _ hunits

theorem roundedUnits_mul (num den : Nat) :
    roundedUnits num den * den =
      roundDiv (num * unitsPerOne) (den * 2 ^ binade (num * unitsPerOne / den)) *
        (den * 2 ^ binade (num * unitsPerOne / den)) := by
  unfold roundedUnits units
  simp only [Nat.pow_eq]
  rw [Nat.mul_assoc, Nat.mul_comm (2 ^ _) den]

theorem roundedUnits_bounds (num : Nat) (hd : 0 < den) :
    2 * (num * unitsPerOne) ≤
        2 * (roundedUnits num den * den) + den * 2 ^ binade (num * unitsPerOne / den) ∧
      2 * (roundedUnits num den * den) ≤
        2 * (num * unitsPerOne) + den * 2 ^ binade (num * unitsPerOne / den) := by
  rw [roundedUnits_mul]
  exact roundDiv_bounds _ (Nat.mul_pos hd (Nat.two_pow_pos _))

/-! ## Packed results -/

theorem pack_cases (negative : Bool) (mant exp : Nat) (hmant : mant < 2 ^ 53)
    (hexp : exp = 0 ∨ 2 ^ 52 ≤ mant) :
    (∃ h : Canonical mant exp, pack negative mant exp = .finite negative mant exp h) ∨
      pack negative mant exp = .infinite negative ∧
        ∀ mant' exp', Canonical mant' exp' → units mant' exp' < units mant exp := by
  unfold pack
  by_cases h : Canonical mant exp
  · exact .inl ⟨h, dif_pos h⟩
  · refine .inr ⟨dif_neg h, fun mant' exp' h' => ?_⟩
    have hlarge : 2045 < exp := Nat.lt_of_not_le fun hsmall => h ⟨hmant, hexp, hsmall⟩
    have hexp' := h'.2.2
    exact h'.units_lt_units (by omega) (by omega)

/-- A quotient is rounded to its own number of units, or to an infinity if those are more than any
number has. -/
theorem ofRatio_cases (negative : Bool) (num den : Nat) :
    (∃ mant exp, ∃ h : Canonical mant exp, ofRatio negative num den = .finite negative mant exp h ∧
        roundedUnits num den = units mant exp) ∨
      ofRatio negative num den = .infinite negative ∧
        ∀ mant exp, Canonical mant exp → units mant exp < roundedUnits num den := by
  have hmax := roundDiv_binade_le num den
  have hmin := le_roundDiv_binade num den
  unfold ofRatio roundedUnits
  simp only [Nat.pow_eq]
  generalize binade (num * unitsPerOne / den) = exp at *
  generalize roundDiv (num * unitsPerOne) (den * 2 ^ exp) = mant at *
  by_cases hcarry : mant = 2 ^ 53
  · -- The mantissa was rounded up to one bit more.
    have hunits : units mant exp = units (2 ^ 52) (exp + 1) := by
      unfold units
      rw [hcarry, Nat.pow_eq, Nat.pow_eq, Nat.pow_succ 2 exp]
      omega
    rw [if_pos hcarry, hunits]
    rcases pack_cases negative (2 ^ 52) (exp + 1) (by omega) (.inr (Nat.le_refl _))
      with ⟨h, hpack⟩ | hpack
    · exact .inl ⟨_, _, h, hpack, rfl⟩
    · exact .inr hpack
  · rw [if_neg hcarry]
    rcases pack_cases negative mant exp (by omega) (by omega) with
      ⟨h, hpack⟩ | hpack
    · exact .inl ⟨_, _, h, hpack, rfl⟩
    · exact .inr hpack

theorem ofRatio_eq_finite_iff {negative : Bool} {mant exp : Nat} {h : Canonical mant exp} :
    ofRatio negative num den = .finite negative mant exp h ↔
      roundedUnits num den = units mant exp := by
  rcases ofRatio_cases negative num den with ⟨mant', exp', h', hratio, hunits⟩ | ⟨hratio, hbeyond⟩
  · rw [hratio, hunits]
    constructor
    · intro heq
      cases heq
      rfl
    · intro heq
      obtain ⟨rfl, rfl⟩ := h'.eq_of_units h heq
      rfl
  · rw [hratio]
    have hne := Nat.ne_of_gt (hbeyond mant exp h)
    exact iff_of_false (by simp) hne

end Binary64

end SpanExport
