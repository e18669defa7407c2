import Mathlib.Algebra.Order.Field.Rat
import Mathlib.Algebra.Order.Ring.Abs
import Mathlib.Data.Finset.Card
import Mathlib.Data.Finset.Range
import Mathlib.Tactic.Linarith
import Mathlib.Tactic.Ring
import SpanExport.Proofs.Number.Overflow
import SpanExport.Proofs.Number.Rational
import SpanExport.Sampling

/-!
# Samplers and rates

What a sampler keeps and the rate that is reported are rounded separately from the same fraction.
Both follow the fraction: a greater one keeps more and reports no more. And the rate times the
number of identifiers that are kept is the number of all, up to the rounding of the inverse.
-/

namespace SpanExport.Sampling

open Binary64

variable {mant exp mant' exp' : Nat} {h : Canonical mant exp} {h' : Canonical mant' exp'}

/-! ## Greater fractions -/

theorem ofFraction_finite (h : Canonical mant exp) (hpositive : 0 < units mant exp) :
    Sampler.ofFraction (.float (.finite false mant exp h)) =
      if units mant exp < unitsPerOne then .ratio (.finite false mant exp h) else .always := by
  have hmant : 0 < mant := Nat.pos_of_mul_pos_right hpositive
  simp [Sampler.ofFraction, isProperFraction, hmant]

theorem keeps_of_units_le (hpositive : 0 < units mant exp)
    (hle : units mant exp ≤ units mant' exp') {traceId : Int}
    (hkeeps : (Sampler.ofFraction (.float (.finite false mant exp h))).keeps traceId = true) :
    (Sampler.ofFraction (.float (.finite false mant' exp' h'))).keeps traceId = true := by
  rw [ofFraction_finite h hpositive] at hkeeps
  rw [ofFraction_finite h' (Nat.lt_of_lt_of_le hpositive hle)]
  split
  · rename_i hproper
    rw [if_pos (Nat.lt_of_le_of_lt hle hproper)] at hkeeps
    have hbound : Sampler.bound (.finite false mant exp h) ≤
        Sampler.bound (.finite false mant' exp' h') :=
      roundDiv_le_roundDiv_left (Nat.mul_le_mul_right _ hle)
    have hless := of_decide_eq_true hkeeps
    exact decide_eq_true (lt_of_lt_of_le hless (by exact_mod_cast hbound))
  · rfl

theorem rate?_finite (h : Canonical mant exp) (hpositive : 0 < units mant exp) :
    rate? (.float (.finite false mant exp h)) =
      (ofRatio false unitsPerOne (units mant exp)).round? := by
  have hmant : mant ≠ 0 := Nat.ne_of_gt (Nat.pos_of_mul_pos_right hpositive)
  simp [rate?, Quantity.isZero, isZero, Quantity.inverse, inverse, hmant]

theorem rate?_eq (h : Canonical mant exp) (hpositive : 0 < units mant exp) {rate : Int}
    (hrate : rate? (.float (.finite false mant exp h)) = some rate) :
    rate = roundDiv (roundedUnits unitsPerOne (units mant exp)) unitsPerOne := by
  rw [rate?_finite h hpositive] at hrate
  rcases ofRatio_cases false unitsPerOne (units mant exp) with
    ⟨inverse, e, hinverse, hratio, hunits⟩ | ⟨hratio, -⟩
  · rw [hratio] at hrate
    rw [hunits]
    exact (Option.some.inj hrate).symm
  · rw [hratio] at hrate
    cases hrate

theorem rate_le_of_units_le (hpositive : 0 < units mant exp)
    (hle : units mant exp ≤ units mant' exp') {rate rate' : Int}
    (hrate : rate? (.float (.finite false mant exp h)) = some rate)
    (hrate' : rate? (.float (.finite false mant' exp' h')) = some rate') : rate' ≤ rate := by
  have hpositive' : 0 < units mant' exp' := Nat.lt_of_lt_of_le hpositive hle
  rw [rate?_eq h hpositive hrate, rate?_eq h' hpositive' hrate']
  have hinverse : roundedUnits unitsPerOne (units mant' exp') ≤
      roundedUnits unitsPerOne (units mant exp) :=
    roundedUnits_le_roundedUnits hpositive' hpositive (Nat.mul_le_mul_left _ hle)
  exact_mod_cast roundDiv_le_roundDiv_left hinverse

/-! ## Identifiers that are kept -/

namespace Sampler

/-- The residues of the identifiers that are kept. -/
def keptResidues (s : Sampler) : Finset Nat :=
  (Finset.range traceSpace).filter fun residue => s.keeps residue = true

theorem keeps_iff (s : Sampler) (traceId : Int) :
    s.keeps traceId = true ↔ (traceId % traceSpace).toNat ∈ s.keptResidues := by
  have hspace : (0 : Int) < traceSpace := by decide
  have hlow := Int.emod_nonneg traceId hspace.ne'
  have hhigh := Int.emod_lt_of_pos traceId hspace
  have hresidue : s.keeps ((traceId % traceSpace).toNat : Int) = s.keeps traceId := by
    rw [Int.toNat_of_nonneg hlow]
    cases s with
    | always => rfl
    | ratio fraction => rw [keeps, keeps, Int.emod_emod]
  rw [keptResidues, Finset.mem_filter, Finset.mem_range, hresidue]
  exact ⟨fun hkeeps => ⟨by omega, hkeeps⟩, And.right⟩

theorem card_keptResidues {fraction : Binary64} (hbound : bound fraction ≤ traceSpace) :
    (Sampler.ratio fraction).keptResidues.card = bound fraction := by
  have hkept : (Sampler.ratio fraction).keptResidues = Finset.range (bound fraction) := by
    ext residue
    simp only [keptResidues, Finset.mem_filter, Finset.mem_range, keeps, decide_eq_true_eq]
    constructor
    · rintro ⟨hspace, hless⟩
      rw [Int.emod_eq_of_lt (by omega) (by omega)] at hless
      omega
    · intro hless
      rw [Int.emod_eq_of_lt (by omega) (by omega)]
      omega
  rw [hkept, Finset.card_range]

end Sampler

/-! ## Exact bounds -/

theorem exists_kept (h : Canonical mant exp) (hlow : unitsPerOne ≤ units mant exp * 2 ^ 12) :
    ∃ kept, units mant exp * Sampler.traceSpace = kept * unitsPerOne ∧
      Sampler.bound (.finite false mant exp h) = kept := by
  obtain ⟨k, hk⟩ : ∃ k, 64 + k = 1074 := ⟨1010, rfl⟩
  have hone : unitsPerOne = 2 ^ 64 * 2 ^ k := by rw [unitsPerOne_eq hk, Nat.pow_add]
  have hlarge : 2 ^ (52 + k) ≤ units mant exp := by
    rw [hone] at hlow
    rw [Nat.pow_add]
    omega
  obtain ⟨kept, hkept⟩ := h.two_pow_dvd_units hlarge
  have hspace : Sampler.traceSpace = 2 ^ 64 := rfl
  have hexact : units mant exp * Sampler.traceSpace = kept * unitsPerOne := by
    rw [hkept, hone, hspace, Nat.mul_comm (2 ^ k) kept, Nat.mul_assoc, Nat.mul_comm (2 ^ k)]
  refine ⟨kept, hexact, ?_⟩
  rw [Sampler.bound, hexact, roundDiv_mul kept unitsPerOne unitsPerOne_pos]

/-! ## The rounding of the inverse -/

variable {num u : Nat}

theorem quotient_lt {k : Nat} (hk : 40 + k = 1074) (hpositive : 0 < u) (hlow : num ≤ u * 2 ^ 12) :
    num * unitsPerOne / u < 2 ^ (53 + k) := by
  have hspare : 2 ^ 12 * unitsPerOne < 2 ^ (53 + k) := by
    have hpow := Nat.two_pow_pos k
    rw [unitsPerOne_eq hk, Nat.pow_add, Nat.pow_add]
    omega
  rw [Nat.div_lt_iff_lt_mul hpositive]
  calc num * unitsPerOne ≤ u * 2 ^ 12 * unitsPerOne := Nat.mul_le_mul_right _ hlow
    _ = 2 ^ 12 * unitsPerOne * u := by rw [Nat.mul_assoc, Nat.mul_comm]
    _ < 2 ^ (53 + k) * u := Nat.mul_lt_mul_of_pos_right hspare hpositive

theorem exists_round (hpositive : 0 < u) (hlow : num ≤ u * 2 ^ 12) :
    ∃ n, (ofRatio false num u).round? = some n := by
  have hbelow : num < overflowBound * u := by
    have hbound := le_overflowBound 0 (by decide)
    calc num ≤ 2 ^ 12 * u := by rwa [Nat.mul_comm]
      _ < overflowBound * u := Nat.mul_lt_mul_of_pos_right (by omega) hpositive
  have hfinite := (ofRatio_isFinite_iff false hpositive).2 hbelow
  cases hratio : ofRatio false num u with
  | nan => rw [hratio] at hfinite; exact hfinite.elim
  | infinite negative => rw [hratio] at hfinite; exact hfinite.elim
  | finite negative mant exp canonical => exact ⟨_, rfl⟩

/-- The inverse of a fraction that is not too small is off by `2 ^ -41` at most. -/
theorem inverse_bounds (hpositive : 0 < u) (hlow : unitsPerOne ≤ u * 2 ^ 12) :
    2 ^ 40 * (2 * (unitsPerOne * unitsPerOne)) ≤
        2 ^ 40 * (2 * (roundedUnits unitsPerOne u * u)) + u * unitsPerOne ∧
      2 ^ 40 * (2 * (roundedUnits unitsPerOne u * u)) ≤
        2 ^ 40 * (2 * (unitsPerOne * unitsPerOne)) + u * unitsPerOne := by
  obtain ⟨k, hk⟩ : ∃ k, 40 + k = 1074 := ⟨1034, rfl⟩
  have hbinade : binade (unitsPerOne * unitsPerOne / u) ≤ k :=
    (binade_le (quotient_lt hk hpositive hlow)).trans (by omega)
  obtain ⟨hbelow, habove⟩ := roundedUnits_bounds unitsPerOne hpositive
  have hunit : ∀ e ≤ k, 2 ^ 40 * (u * 2 ^ e) ≤ u * unitsPerOne := by
    intro e he
    rw [unitsPerOne_eq hk, Nat.pow_add, Nat.mul_left_comm (2 ^ 40) u]
    exact Nat.mul_le_mul_left u (Nat.mul_le_mul_left _ (Nat.pow_le_pow_right (by omega) he))
  have hlast := hunit _ hbinade
  have hbelow' := Nat.mul_le_mul_left (2 ^ 40) hbelow
  have habove' := Nat.mul_le_mul_left (2 ^ 40) habove
  rw [Nat.mul_add] at hbelow' habove'
  exact ⟨hbelow'.trans (Nat.add_le_add_left hlast _), habove'.trans (Nat.add_le_add_left hlast _)⟩

/-- What two roundings, to a half and to `2 ^ -41`, come to when they are weighted. -/
theorem weighted_error {kept rate u one : ℚ} (inverse : ℚ) (hu : 0 < u) (hone : 0 < one)
    (hkept : u * 2 ^ 64 = kept * one)
    (hrate : 2 * inverse ≤ 2 * (rate * one) + one ∧ 2 * (rate * one) ≤ 2 * inverse + one)
    (hinverse : 2 ^ 40 * (2 * (one * one)) ≤ 2 ^ 40 * (2 * (inverse * u)) + u * one ∧
      2 ^ 40 * (2 * (inverse * u)) ≤ 2 ^ 40 * (2 * (one * one)) + u * one) :
    |kept * rate - 2 ^ 64| ≤ kept * (1 / 2 + 1 / 2 ^ 40) := by
  -- First the distance of the rate from the exact inverse, in units.
  have hdistance : |u * rate - one| ≤ u * (1 / 2 + 1 / 2 ^ 40) := by
    have hbelow := mul_le_mul_of_nonneg_right hrate.1 hu.le
    have habove := mul_le_mul_of_nonneg_right hrate.2 hu.le
    have hproduct : 0 < u * one := mul_pos hu hone
    rw [abs_le]
    constructor
    · refine le_of_mul_le_mul_right ?_ hone
      linarith [hinverse.1, hinverse.2]
    · refine le_of_mul_le_mul_right ?_ hone
      linarith [hinverse.1, hinverse.2]
  have hscaled : (kept * rate - 2 ^ 64) * one = (u * rate - one) * 2 ^ 64 := by
    rw [sub_mul, mul_right_comm kept, ← hkept]
    ring
  refine le_of_mul_le_mul_right ?_ hone
  calc |kept * rate - 2 ^ 64| * one = |u * rate - one| * 2 ^ 64 := by
        have hspace : (0 : ℚ) < 2 ^ 64 := by norm_num
        rw [← congrArg (_ * ·) (abs_of_pos hone), ← abs_mul, hscaled, abs_mul, abs_of_pos hspace]
    _ ≤ u * (1 / 2 + 1 / 2 ^ 40) * 2 ^ 64 := mul_le_mul_of_nonneg_right hdistance (by norm_num)
    _ = kept * (1 / 2 + 1 / 2 ^ 40) * one := by
        rw [mul_right_comm, hkept, mul_right_comm kept]

/-! ## Agreement -/

/-- A sampler and a rate that were made for the same fraction, with its value: the sampler keeps just
this share of all identifiers, and the rate counts each one that is kept for so many of them that
they add up to all, up to the rounding of the inverse. -/
structure Agree (s : Sampler) (rate : ℤ) (value : ℚ) : Prop where
  keeps : ∀ traceId, s.keeps traceId = true ↔ (traceId % 2 ^ 64).toNat ∈ s.keptResidues
  share : (s.keptResidues.card : ℚ) = value * 2 ^ 64
  weight : |(s.keptResidues.card * rate - 2 ^ 64 : ℚ)| ≤ s.keptResidues.card * (1 / 2 + 1 / 2 ^ 40)

theorem agree_of_units (h : Canonical mant exp) (hlow : unitsPerOne ≤ units mant exp * 2 ^ 12)
    (hproper : units mant exp < unitsPerOne) {value : ℚ}
    (hvalue : value * unitsPerOne = units mant exp) :
    ∃ rate, rate? (.float (.finite false mant exp h)) = some rate ∧
      Agree (.ratio (.finite false mant exp h)) rate value := by
  have hone := unitsPerOne_cast_pos
  have hpositive : 0 < units mant exp := by
    have := unitsPerOne_pos
    omega
  obtain ⟨rate, hround⟩ := exists_round hpositive hlow
  rw [← rate?_finite h hpositive] at hround
  obtain ⟨kept, hexact, hbound⟩ := exists_kept h hlow
  have hexactQ : (units mant exp : ℚ) * 2 ^ 64 = kept * unitsPerOne := by exact_mod_cast hexact
  have hcard : (Sampler.ratio (.finite false mant exp h)).keptResidues.card = kept := by
    have hkept : kept ≤ Sampler.traceSpace := by
      refine Nat.le_of_mul_le_mul_right ?_ unitsPerOne_pos
      rw [← hexact, Nat.mul_comm Sampler.traceSpace]
      exact Nat.mul_le_mul_right _ hproper.le
    rw [Sampler.card_keptResidues (hbound.trans_le hkept), hbound]
  refine ⟨rate, hround, ⟨Sampler.keeps_iff _, ?_, ?_⟩⟩
  · rw [hcard]
    refine mul_right_cancel₀ hone.ne' ?_
    rw [← hexactQ, ← hvalue, mul_right_comm]
  · rw [hcard, rate?_eq h hpositive hround]
    refine weighted_error (roundedUnits unitsPerOne (units mant exp))
      (by exact_mod_cast hpositive) hone hexactQ ?_ ?_
    · exact_mod_cast roundDiv_bounds (roundedUnits unitsPerOne (units mant exp)) unitsPerOne_pos
    · exact_mod_cast inverse_bounds hpositive hlow

/-- Greater fractions keep more and report no more. A proper fraction of at least `2 ^ -12` has a
sampler and a rate that agree. -/
theorem sampler_agrees_with_rate :
    (∀ (x y : Binary64) (a b : ℚ), x.toRat? = some a → y.toRat? = some b → 0 < a → a ≤ b →
      ∃ s t r q, Sampler.ofValue (.float x) = .ok s ∧ Sampler.ofValue (.float y) = .ok t ∧
        rate (.float x) = .ok r ∧ rate (.float y) = .ok q ∧
        (∀ traceId, s.keeps traceId = true → t.keeps traceId = true) ∧
        ∀ m ∈ r, ∀ n ∈ q, n ≤ m) ∧
    ∀ (x : Binary64) (a : ℚ), x.toRat? = some a → 1 / 2 ^ 12 ≤ a → a < 1 →
      ∃ s r, Sampler.ofValue (.float x) = .ok s ∧ rate (.float x) = .ok (some r) ∧ Agree s r a := by
  have hone := unitsPerOne_cast_pos
  constructor
  · intro x y a b hx hy ha hab
    obtain ⟨mant, exp, h, rfl, hunits, hpositive⟩ := eq_finite_of_toRat? hx ha
    obtain ⟨mant', exp', h', rfl, hunits', -⟩ := eq_finite_of_toRat? hy (ha.trans_le hab)
    have hle : units mant exp ≤ units mant' exp' := by
      have hscaled := mul_le_mul_of_nonneg_right hab hone.le
      rw [hunits, hunits'] at hscaled
      exact_mod_cast hscaled
    exact ⟨_, _, _, _, rfl, rfl, rfl, rfl, fun _ => keeps_of_units_le hpositive hle,
      fun _ hm _ hn => rate_le_of_units_le hpositive hle hm hn⟩
  · intro x a hx hlow hless
    have ha : 0 < a := lt_of_lt_of_le (by norm_num) hlow
    obtain ⟨mant, exp, h, rfl, hunits, hpositive⟩ := eq_finite_of_toRat? hx ha
    have hlowQ : (unitsPerOne : ℚ) ≤ units mant exp * 2 ^ 12 := by
      have hscaled := mul_le_mul_of_nonneg_right hlow hone.le
      rw [hunits] at hscaled
      linarith
    have hproperQ : (units mant exp : ℚ) < unitsPerOne := by
      rw [← hunits]
      exact mul_lt_of_lt_one_left hone hless
    have hproper : units mant exp < unitsPerOne := by exact_mod_cast hproperQ
    obtain ⟨rate, hrate, hagree⟩ := agree_of_units h (by exact_mod_cast hlowQ) hproper hunits
    refine ⟨_, rate, congrArg Except.ok ?_, congrArg Except.ok hrate, hagree⟩
    rw [ofFraction_finite h hpositive, if_pos hproper]

/-- The number nearest to one tenth, which is a little more than that. -/
def tenth : Binary64 := .finite false 7205759403792794 1018 (by decide)

def quarter : Binary64 := .finite false (Nat.pow 2 52) 1020 (by decide)

theorem tenth_agrees :
    tenth.toRat? = some (7205759403792794 / 2 ^ 56) ∧ quarter.toRat? = some (1 / 4) ∧
    ∃ s t, Sampler.ofValue (.float tenth) = .ok s ∧ Sampler.ofValue (.float quarter) = .ok t ∧
      (∀ traceId, s.keeps traceId = true → t.keeps traceId = true) ∧
      rate (.float tenth) = .ok (some 10) ∧ rate (.float quarter) = .ok (some 4) ∧
      (s.keptResidues.card : ℚ) = 1844674407370955264 ∧ Agree s 10 (7205759403792794 / 2 ^ 56) := by
  have hcanonical : Canonical 7205759403792794 1018 := by decide
  have htenth : tenth.toRat? = some (7205759403792794 / 2 ^ 56) := toRat?_finite hcanonical rfl
  have hquarter : quarter.toRat? = some (1 / 4) := by
    have hvalue : ((Nat.pow 2 52 : Nat) : ℚ) / 2 ^ 54 = 1 / 4 := by norm_num
    rw [← hvalue]
    exact toRat?_finite (by decide) rfl
  obtain ⟨hgreater, hexact⟩ := sampler_agrees_with_rate
  obtain ⟨s, t, r, q, hs, ht, hr, hq, hkeeps, -⟩ :=
    hgreater tenth quarter _ _ htenth hquarter (by norm_num) (by norm_num)
  obtain ⟨s', r', hs', hr', hagree⟩ := hexact tenth _ htenth (by norm_num) (by norm_num)
  have hten : rate (.float tenth) = .ok (some 10) := by decide +kernel
  have hfour : rate (.float quarter) = .ok (some 4) := by decide +kernel
  obtain rfl : s' = s := Except.ok.inj (hs'.symm.trans hs)
  obtain rfl : r' = 10 := Option.some.inj (Except.ok.inj (hr'.symm.trans hten))
  refine ⟨htenth, hquarter, s', t, hs, ht, hkeeps, hten, hfour, ?_, hagree⟩
  rw [hagree.share]
  norm_num

end SpanExport.Sampling
