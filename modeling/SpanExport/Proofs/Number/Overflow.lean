import Mathlib.Tactic.Ring
import SpanExport.Proofs.Number.Nearest

/-!
# Overflow

A quotient is rounded to a number up to the middle between the largest number and the next power of
two. The middle itself goes to the power, which is even, and is lost with all that is above it.
-/

namespace SpanExport.Binary64

def IsFinite : Binary64 → Prop
  | .finite .. => True
  | _ => False

/-- The middle between the largest number, `(2 ^ 54 - 2) * 2 ^ 970`, and the next power of two,
`2 ^ 54 * 2 ^ 970`. -/
def overflowBound : Nat := (2 ^ 54 - 1) * Nat.pow 2 970

variable {num den : Nat}

theorem le_overflowBound (bits : Nat) (h : bits ≤ 970) :
    (2 ^ 54 - 1) * 2 ^ bits ≤ overflowBound := by
  obtain ⟨low, hlow⟩ : ∃ low, low = 970 := ⟨_, rfl⟩
  rw [← hlow] at h
  rw [overflowBound, ← hlow]
  exact Nat.mul_le_mul_left _ (Nat.pow_le_pow_right (by decide) h)

theorem ofRatio_isFinite_iff_units {negative : Bool} {top : Nat} (htop : top = 2045) :
    (ofRatio negative num den).IsFinite ↔ roundedUnits num den ≤ (2 ^ 53 - 1) * 2 ^ top := by
  have hlargest : Canonical (2 ^ 53 - 1) top := ⟨by decide, .inr (by decide), Nat.le_of_eq htop⟩
  rcases ofRatio_cases negative num den with ⟨mant, exp, h, hratio, hunits⟩ | ⟨hratio, hbeyond⟩
  · rw [hratio, hunits]
    refine iff_of_true trivial ?_
    have hmant : mant ≤ 2 ^ 53 - 1 := Nat.le_sub_one_of_lt h.1
    have hexp : exp ≤ top := htop ▸ h.2.2
    exact Nat.mul_le_mul hmant (Nat.pow_le_pow_right (by decide) hexp)
  · rw [hratio]
    exact iff_of_false id (Nat.not_le.2 (hbeyond _ _ hlargest))

theorem overflowBound_mul_unitsPerOne {bits : Nat} (h : bits = 2044) :
    overflowBound * unitsPerOne = (2 ^ 54 - 1) * 2 ^ bits := by
  obtain ⟨low, hlow⟩ : ∃ low, low = 970 := ⟨_, rfl⟩
  obtain ⟨one, hone⟩ : ∃ one, one = 1074 := ⟨_, rfl⟩
  have hbits : bits = low + one := by omega
  rw [overflowBound, ← hlow, unitsPerOne_eq hone, hbits, Nat.pow_add, Nat.pow_eq, Nat.mul_assoc]

/-- The middle is a tie, and it is rounded up to a power of two. -/
theorem roundedUnits_overflowBound {bits : Nat} (h : bits = 2044) :
    roundedUnits overflowBound 1 = 2 ^ 53 * 2 ^ (bits + 1) := by
  have hunits := overflowBound_mul_unitsPerOne h
  have hbinade : binade ((2 ^ 54 - 1) * 2 ^ bits) = bits + 1 := by
    have hpow := Nat.two_pow_pos bits
    have hlog : ((2 ^ 54 - 1) * 2 ^ bits).log2 = 53 + bits := by
      refine (Nat.log2_eq_iff (by omega)).2 ?_
      rw [Nat.add_right_comm, Nat.pow_add, Nat.pow_add]
      omega
    unfold binade
    omega
  have htie : roundDiv ((2 ^ 54 - 1) * 2 ^ bits) (1 * 2 ^ (bits + 1)) = 2 ^ 53 := by
    have hsmall : roundDiv (2 ^ 54 - 1) 2 = 2 ^ 53 := by decide
    rw [← hsmall]
    refine roundDiv_congr (Nat.mul_pos Nat.one_pos (Nat.two_pow_pos _)) (by decide) ?_
    rw [Nat.pow_succ]
    ring
  unfold roundedUnits
  rw [Nat.div_one, hunits, hbinade]
  exact congrArg (units · (bits + 1)) htie

theorem roundDiv_le_of_lt {n d k : Nat} (h : 2 * n < (2 * k + 1) * d) : roundDiv n d ≤ k := by
  have hd : 0 < d := Nat.pos_of_ne_zero fun hzero => by simp [hzero] at h
  have hupper := (roundDiv_bounds n hd).2
  have hless : roundDiv n d * d < (k + 1) * d := by
    rw [Nat.add_mul] at h ⊢
    rw [Nat.mul_assoc] at h
    omega
  exact Nat.le_of_lt_succ (Nat.lt_of_mul_lt_mul_right hless)

theorem roundedUnits_le_of_lt {bits : Nat} (hbits : bits = 2044) (hd : 0 < den)
    (h : num < overflowBound * den) :
    roundedUnits num den ≤ (2 ^ 53 - 1) * 2 ^ (bits + 1) := by
  have hpow := Nat.two_pow_pos bits
  have hunits : num * unitsPerOne < (2 ^ 54 - 1) * 2 ^ bits * den := by
    rw [← overflowBound_mul_unitsPerOne hbits, Nat.mul_right_comm]
    exact Nat.mul_lt_mul_of_pos_right h unitsPerOne_pos
  have hquotient : num * unitsPerOne / den < 2 ^ (54 + bits) := by
    rw [Nat.div_lt_iff_lt_mul hd, Nat.pow_add]
    refine Nat.lt_of_lt_of_le hunits (Nat.mul_le_mul_right _ (Nat.mul_le_mul_right _ ?_))
    decide
  have hmax := roundDiv_binade_le num den
  have hbinade := binade_le hquotient
  unfold roundedUnits units
  simp only [Nat.pow_eq]
  generalize binade (num * unitsPerOne / den) = exp at *
  rcases Nat.lt_or_eq_of_le (show exp ≤ bits + 1 by omega) with hlt | rfl
  · have hless : 2 ^ exp ≤ 2 ^ bits := Nat.pow_le_pow_right (by decide) (by omega)
    calc roundDiv (num * unitsPerOne) (den * 2 ^ exp) * 2 ^ exp
        ≤ 2 ^ 53 * 2 ^ bits := Nat.mul_le_mul hmax hless
      _ ≤ (2 ^ 53 - 1) * 2 ^ (bits + 1) := by rw [Nat.pow_succ]; omega
  · refine Nat.mul_le_mul_right _ (roundDiv_le_of_lt ?_)
    calc 2 * (num * unitsPerOne) < 2 * ((2 ^ 54 - 1) * 2 ^ bits * den) := by omega
      _ = (2 * (2 ^ 53 - 1) + 1) * (den * 2 ^ (bits + 1)) := by rw [Nat.pow_succ]; ring

theorem ofRatio_isFinite_iff (negative : Bool) (hd : 0 < den) :
    (ofRatio negative num den).IsFinite ↔ num < overflowBound * den := by
  obtain ⟨bits, hbits⟩ : ∃ bits, bits = 2044 := ⟨_, rfl⟩
  rw [ofRatio_isFinite_iff_units (show bits + 1 = 2045 by omega)]
  constructor
  · intro hle
    by_contra hlarge
    have hmono : roundedUnits overflowBound 1 ≤ roundedUnits num den :=
      roundedUnits_le_roundedUnits Nat.one_pos hd (by omega)
    rw [roundedUnits_overflowBound hbits] at hmono
    have hpow := Nat.two_pow_pos (bits + 1)
    omega
  · exact roundedUnits_le_of_lt hbits hd

theorem ofRatio_eq_infinite (negative : Bool) (hd : 0 < den) (h : overflowBound * den ≤ num) :
    ofRatio negative num den = .infinite negative := by
  rcases ofRatio_cases negative num den with ⟨mant, exp, canonical, hratio, -⟩ | ⟨hratio, -⟩
  · have hbelow := (ofRatio_isFinite_iff negative hd).1 (by rw [hratio]; trivial)
    omega
  · exact hratio

end SpanExport.Binary64
