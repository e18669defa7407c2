import Mathlib.Algebra.Order.Field.Basic
import Mathlib.Tactic.Ring
import SpanExport.Proofs.Number.Overflow
import SpanExport.Proofs.Number.Rational

/-!
# The number nearest to a quotient

What a quotient is rounded to is the nearest of all numbers, and of two that are equally near it is
the one with the even mantissa.
-/

namespace SpanExport.Binary64

variable {num den mant exp : Nat}

/-! ## Units -/

theorem units_mul_lt (hd : 0 < den) (h : Canonical mant exp)
    (hexp : exp < binade (num * unitsPerOne / den)) :
    units mant exp * den < 2 ^ 52 * (den * 2 ^ binade (num * unitsPerOne / den)) ∧
      2 ^ 52 * (den * 2 ^ binade (num * unitsPerOne / den)) ≤ num * unitsPerOne := by
  have hlow := le_of_binade (Nat.ne_of_gt (Nat.lt_of_le_of_lt (Nat.zero_le exp) hexp))
  have hpow : 2 ^ (exp + 1) ≤ 2 ^ binade (num * unitsPerOne / den) :=
    Nat.pow_le_pow_right (by decide) hexp
  have hcut := Nat.mul_pos hd (Nat.two_pow_pos (binade (num * unitsPerOne / den)))
  constructor
  · calc mant * 2 ^ exp * den
        < 2 ^ 53 * 2 ^ exp * den :=
          Nat.mul_lt_mul_of_pos_right
            (Nat.mul_lt_mul_of_pos_right h.1 (Nat.two_pow_pos exp)) hd
      _ = 2 ^ 52 * (den * 2 ^ (exp + 1)) := by rw [Nat.pow_succ 2 exp]; ring
      _ ≤ _ := Nat.mul_le_mul_left _ (Nat.mul_le_mul_left den hpow)
  · rw [Nat.div_div_eq_div_mul] at hlow
    exact (Nat.le_div_iff_mul_le hcut).1 hlow

/-- Every other number is farther from the quotient than what it is rounded to, or as far and the
mantissa of that is even. -/
theorem roundedUnits_closest (num : Nat) (hd : 0 < den) (h : Canonical mant exp)
    (hne : units mant exp ≠ roundedUnits num den) :
    gap (num * unitsPerOne) den (roundedUnits num den) <
        gap (num * unitsPerOne) den (units mant exp) ∨
      gap (num * unitsPerOne) den (roundedUnits num den) =
          gap (num * unitsPerOne) den (units mant exp) ∧
        roundDiv (num * unitsPerOne) (den * 2 ^ binade (num * unitsPerOne / den)) % 2 = 0 := by
  have hrounded := roundedUnits_mul num den
  have hcut := Nat.mul_pos hd (Nat.two_pow_pos (binade (num * unitsPerOne / den)))
  have hgap : gap (num * unitsPerOne) den (roundedUnits num den) =
      gap (num * unitsPerOne) (den * 2 ^ binade (num * unitsPerOne / den))
        (roundDiv (num * unitsPerOne) (den * 2 ^ binade (num * unitsPerOne / den))) := by
    rw [gap, hrounded, gap]
  rw [hgap]
  rcases Nat.lt_or_ge exp (binade (num * unitsPerOne / den)) with hfine | hcoarse
  · -- The least number of the binade lies between, and is not closer than the rounded one.
    obtain ⟨hbelow, hquotient⟩ := units_mul_lt hd h hfine
    have hleast := roundDiv_closest (num * unitsPerOne) (k := 2 ^ 52) hcut
    left
    unfold gap at *
    generalize den * 2 ^ binade (num * unitsPerOne / den) = cut at *
    generalize num * unitsPerOne = n at *
    by_cases heq : 2 ^ 52 = roundDiv n cut
    · rw [← heq]
      omega
    · have hle := hleast heq
      omega
  · obtain ⟨k, hk⟩ := Nat.exists_eq_add_of_le hcoarse
    have hmultiple : units mant exp * den =
        mant * 2 ^ k * (den * 2 ^ binade (num * unitsPerOne / den)) := by
      unfold units
      rw [Nat.pow_eq, congrArg (2 ^ ·) hk, Nat.pow_add]
      ring
    have hother : mant * 2 ^ k ≠
        roundDiv (num * unitsPerOne) (den * 2 ^ binade (num * unitsPerOne / den)) := by
      intro heq
      rw [heq, ← hrounded] at hmultiple
      exact hne (Nat.eq_of_mul_eq_mul_right hd hmultiple)
    have hgap' : gap (num * unitsPerOne) den (units mant exp) =
        gap (num * unitsPerOne) (den * 2 ^ binade (num * unitsPerOne / den)) (mant * 2 ^ k) := by
      rw [gap, hmultiple, gap]
    rw [hgap']
    exact roundDiv_closest _ hcut hother

theorem even_of_ofRatio {negative : Bool} {h : Canonical mant exp}
    (hratio : ofRatio negative num den = .finite negative mant exp h)
    (heven : roundDiv (num * unitsPerOne) (den * 2 ^ binade (num * unitsPerOne / den)) % 2 = 0) :
    mant % 2 = 0 := by
  unfold ofRatio pack at hratio
  simp only [Nat.pow_eq] at hratio
  split at hratio
  · split at hratio
    · cases hratio
      decide
    · cases hratio
  · split at hratio
    · cases hratio
      exact heven
    · cases hratio

/-! ## Values -/

theorem abs_div_sub (n : Nat) {d : Nat} (hd : 0 < d) (k : Nat) :
    |(n : ℚ) / d - k| = gap n d k / d := by
  have hdQ : (0 : ℚ) < d := by exact_mod_cast hd
  have hscaled : (n : ℚ) / d - k = ((n : Int) - (k * d : Nat) : Int) / d := by
    push_cast
    rw [sub_div, mul_div_cancel_right₀ _ hdQ.ne']
  rw [hscaled, abs_div, abs_of_pos hdQ, gap, Nat.cast_natAbs, Int.cast_abs]

theorem abs_sub_eq_gap (num : Nat) (hd : 0 < den) (u : Nat) :
    |(num : ℚ) / den - u / unitsPerOne| =
      gap (num * unitsPerOne) den u / (den * unitsPerOne) := by
  have hone := unitsPerOne_cast_pos
  have hscaled : (num : ℚ) / den - u / unitsPerOne =
      ((num * unitsPerOne : Nat) / den - u) / unitsPerOne := by
    rw [sub_div, Nat.cast_mul, div_right_comm, mul_div_cancel_right₀ _ hone.ne']
  rw [hscaled, abs_div, abs_of_pos hone, abs_div_sub _ hd, div_div]

theorem closest_of_units (num : Nat) (hd : 0 < den) (h : Canonical mant exp)
    (hne : (units mant exp : ℚ) / unitsPerOne ≠ roundedUnits num den / unitsPerOne) :
    |(num : ℚ) / den - roundedUnits num den / unitsPerOne| <
        |(num : ℚ) / den - units mant exp / unitsPerOne| ∨
      |(num : ℚ) / den - roundedUnits num den / unitsPerOne| =
          |(num : ℚ) / den - units mant exp / unitsPerOne| ∧
        roundDiv (num * unitsPerOne) (den * 2 ^ binade (num * unitsPerOne / den)) % 2 = 0 := by
  have hscale : (0 : ℚ) < den * unitsPerOne :=
    mul_pos (by exact_mod_cast hd) unitsPerOne_cast_pos
  rw [abs_sub_eq_gap num hd, abs_sub_eq_gap num hd, div_lt_div_iff_of_pos_right hscale,
    div_left_inj' hscale.ne', Nat.cast_lt, Nat.cast_inj]
  exact roundedUnits_closest num hd h fun heq => hne (by rw [heq])

theorem closest_of_nonpos {q a b : ℚ} {p : Prop} (hq : 0 ≤ q) (hb : b ≤ 0) (hne : b ≠ a)
    (hzero : a ≠ 0 → |q - a| < |q| ∨ |q - a| = |q| ∧ p) :
    |q - a| < |q - b| ∨ |q - a| = |q - b| ∧ p := by
  have hfar : |q - b| = q - b := abs_of_nonneg (by linarith)
  rw [abs_of_nonneg hq] at hzero
  rw [hfar]
  by_cases ha : a = 0
  · left
    rw [ha, sub_zero, abs_of_nonneg hq]
    linarith [lt_of_le_of_ne hb (ha ▸ hne)]
  · rcases hzero ha with hlt | ⟨heq, hp⟩
    · left
      linarith
    · rw [heq]
      exact (lt_or_eq_of_le (by linarith)).imp_right fun htie => ⟨htie, hp⟩

/-! ## Nearest numbers -/

def HasEvenMantissa : Binary64 → Prop
  | .finite _ mant _ _ => mant % 2 = 0
  | _ => False

/-- The finite number is nearest to `q`: every other value is farther from it, or as far and the
mantissa of this number is even. -/
def IsNearest (x : Binary64) (q : ℚ) : Prop :=
  ∃ a, x.toRat? = some a ∧ ∀ (y : Binary64) (b : ℚ), y.toRat? = some b → b ≠ a →
    |q - a| < |q - b| ∨ |q - a| = |q - b| ∧ x.HasEvenMantissa

theorem IsNearest.exists_toRat? {x : Binary64} {q : ℚ} (h : x.IsNearest q) :
    ∃ a, x.toRat? = some a := by
  obtain ⟨a, ha, -⟩ := h
  exact ⟨a, ha⟩

/-- The number with the other sign. -/
def neg : Binary64 → Binary64
  | .nan => .nan
  | .infinite negative => .infinite !negative
  | .finite negative mant exp h => .finite (!negative) mant exp h

theorem toRat?_neg (x : Binary64) : x.neg.toRat? = x.toRat?.map (- ·) := by
  match x with
  | .nan => rfl
  | .infinite negative => rfl
  | .finite false mant exp h =>
    rw [neg, toRat?_unsigned, Bool.not_false, toRat?_negative, Option.map_some]
  | .finite true mant exp h =>
    rw [neg, toRat?_negative, Bool.not_true, toRat?_unsigned, Option.map_some, neg_neg]

theorem toRat?_neg_of_some {x : Binary64} {a : ℚ} (h : x.toRat? = some a) :
    x.neg.toRat? = some (-a) := by
  rw [toRat?_neg, h, Option.map_some]

theorem hasEvenMantissa_neg (x : Binary64) : x.neg.HasEvenMantissa ↔ x.HasEvenMantissa := by
  cases x <;> rfl

theorem ofRatio_not (negative : Bool) (num den : Nat) :
    ofRatio (!negative) num den = (ofRatio negative num den).neg := by
  have hpack : ∀ mant exp, pack (!negative) mant exp = (pack negative mant exp).neg := by
    intro mant exp
    unfold pack
    split <;> rfl
  unfold ofRatio
  simp only [hpack]
  split <;> rfl

theorem IsNearest.neg {x : Binary64} {q : ℚ} (h : x.IsNearest q) : x.neg.IsNearest (-q) := by
  obtain ⟨a, ha, hclosest⟩ := h
  refine ⟨-a, toRat?_neg_of_some ha, fun y b hb hne => ?_⟩
  have hother := hclosest y.neg (-b) (toRat?_neg_of_some hb) fun heq => hne (by rw [← heq, neg_neg])
  have hflip : ∀ c : ℚ, |-q - c| = |q - -c| := by
    intro c
    rw [← abs_neg, neg_sub, sub_neg_eq_add, sub_neg_eq_add, add_comm]
  rwa [hflip, hflip, neg_neg, hasEvenMantissa_neg]

theorem toRat?_ofRatio (hd : 0 < den) (hbound : num < overflowBound * den) :
    (ofRatio false num den).toRat? = some (roundedUnits num den / unitsPerOne : ℚ) := by
  have hfinite := (ofRatio_isFinite_iff false hd).2 hbound
  rcases ofRatio_cases false num den with ⟨mant, exp, h, hratio, hunits⟩ | ⟨hratio, -⟩
  · rw [hratio, hunits, toRat?_unsigned]
  · rw [hratio] at hfinite
    exact hfinite.elim

theorem ofRatio_isNearest (hd : 0 < den) (hbound : num < overflowBound * den) :
    (ofRatio false num den).IsNearest (num / den) := by
  have hvalue := toRat?_ofRatio hd hbound
  rcases ofRatio_cases false num den with ⟨mant, exp, h, hratio, -⟩ | ⟨hratio, -⟩
  · have heven : roundDiv (num * unitsPerOne) (den * 2 ^ binade (num * unitsPerOne / den)) % 2 = 0 →
        (ofRatio false num den).HasEvenMantissa := by
      intro hround
      rw [hratio]
      exact even_of_ofRatio hratio hround
    refine ⟨_, hvalue, fun y b hb hne => ?_⟩
    match y with
    | .finite false mant' exp' h' =>
      obtain rfl := Option.some.inj ((toRat?_unsigned h').symm.trans hb)
      exact (closest_of_units num hd h' hne).imp_right (And.imp_right heven)
    | .finite true mant' exp' h' =>
      obtain rfl := Option.some.inj ((toRat?_negative h').symm.trans hb)
      have hbelow : -((units mant' exp' : ℚ) / unitsPerOne) ≤ 0 :=
        neg_nonpos.2 (div_nonneg (Nat.cast_nonneg _) unitsPerOne_cast_pos.le)
      refine closest_of_nonpos (div_nonneg (Nat.cast_nonneg _) (Nat.cast_nonneg _)) hbelow hne ?_
      intro hrounded
      have hzero : ((units 0 0 : Nat) : ℚ) / unitsPerOne = 0 := by
        rw [units, Nat.zero_mul, Nat.cast_zero, zero_div]
      have hclosest := closest_of_units num hd (show Canonical 0 0 by decide)
        (by rw [hzero]; exact hrounded.symm)
      rw [hzero, sub_zero] at hclosest
      exact hclosest.imp_right (And.imp_right heven)
  · rw [hratio] at hvalue
    cases hvalue

theorem ofIntRatio_isNearest {num : Int} (hd : 0 < den)
    (hbound : num.natAbs < overflowBound * den) :
    (ofIntRatio num den).IsNearest (num / den) := by
  have hmagnitude := ofRatio_isNearest hd hbound
  unfold ofIntRatio
  by_cases hnegative : num < 0
  · have hcast : (num : ℚ) = -(num.natAbs : ℚ) := by
      rw [Nat.cast_natAbs, abs_of_neg hnegative, Int.cast_neg, neg_neg]
    rw [decide_eq_true hnegative, ← Bool.not_false, ofRatio_not, hcast, neg_div]
    exact hmagnitude.neg
  · have hcast : (num : ℚ) = num.natAbs := by
      rw [Nat.cast_natAbs, abs_of_nonneg (not_lt.1 hnegative)]
    rw [decide_eq_false hnegative, hcast]
    exact hmagnitude

end SpanExport.Binary64
