import SpanExport.Number.Rounding

/-!
# Rounding quotients

A rounded quotient depends on the quotient alone, is at most one half away from it, and does not
decrease when the quotient grows. No other whole number is closer, and of two that are equally close
it is the even one.
-/

namespace SpanExport

variable {m n d e : Nat}

theorem roundDiv_mul_right (n d : Nat) {k : Nat} (hk : 0 < k) :
    roundDiv (n * k) (d * k) = roundDiv n d := by
  have hless : 2 * (n % d * k) < d * k ↔ 2 * (n % d) < d := by
    rw [← Nat.mul_assoc]
    exact Nat.mul_lt_mul_right hk
  have htie : 2 * (n % d * k) = d * k ↔ 2 * (n % d) = d := by
    rw [← Nat.mul_assoc]
    exact Nat.mul_left_inj (Nat.ne_of_gt hk)
  unfold roundDiv
  rw [Nat.mul_mod_mul_right, Nat.mul_div_mul_right _ _ hk]
  simp only [hless, htie]

theorem roundDiv_congr (hd : 0 < d) (he : 0 < e) (h : n * e = m * d) :
    roundDiv n d = roundDiv m e := by
  rw [← roundDiv_mul_right n d he, h, Nat.mul_comm d e, roundDiv_mul_right m e hd]

theorem roundDiv_bounds (n : Nat) (hd : 0 < d) :
    2 * n ≤ 2 * (roundDiv n d * d) + d ∧ 2 * (roundDiv n d * d) ≤ 2 * n + d := by
  have hdivision := Nat.div_add_mod' n d
  have hrest := Nat.mod_lt n hd
  unfold roundDiv
  split
  · omega
  · have hnext : (n / d + 1) * d = n / d * d + d := Nat.succ_mul _ _
    omega

theorem roundDiv_le_roundDiv_left (h : n ≤ m) : roundDiv n d ≤ roundDiv m d := by
  have hquotient : n / d ≤ m / d := Nat.div_le_div_right h
  rcases Nat.lt_or_eq_of_le hquotient with hlt | heq
  · rcases roundDiv_eq_or n d with hn | hn <;> rcases roundDiv_eq_or m d with hm | hm <;> omega
  · -- With the same integer part the remainders decide.
    have hn := Nat.div_add_mod n d
    have hm := Nat.div_add_mod m d
    rw [← heq] at hm
    unfold roundDiv
    rw [← heq]
    split <;> split <;> omega

theorem roundDiv_le_roundDiv (hd : 0 < d) (he : 0 < e) (h : n * e ≤ m * d) :
    roundDiv n d ≤ roundDiv m e := by
  rw [← roundDiv_mul_right n d he, ← roundDiv_mul_right m e hd, Nat.mul_comm e d]
  exact roundDiv_le_roundDiv_left h

/-! ## Closeness -/

/-- How far `k` times `d` is from `n`. -/
def gap (n d k : Nat) : Nat := ((n : Int) - (k * d : Nat)).natAbs

theorem two_mul_gap_le (n : Nat) (hd : 0 < d) : 2 * gap n d (roundDiv n d) ≤ d := by
  have hbounds := roundDiv_bounds n hd
  unfold gap
  omega

theorem even_of_two_mul_gap (hd : 0 < d) (h : 2 * gap n d (roundDiv n d) = d) :
    roundDiv n d % 2 = 0 := by
  have hdivision := Nat.div_add_mod' n d
  have hrest := Nat.mod_lt n hd
  have hnext : (n / d + 1) * d = n / d * d + d := Nat.succ_mul _ _
  unfold gap roundDiv at h
  unfold roundDiv
  split <;> rename_i hnear
  · rw [if_pos hnear] at h
    omega
  · rw [if_neg hnear] at h
    omega

theorem roundDiv_closest (n : Nat) {k : Nat} (hd : 0 < d) (hk : k ≠ roundDiv n d) :
    gap n d (roundDiv n d) < gap n d k ∨
      gap n d (roundDiv n d) = gap n d k ∧ roundDiv n d % 2 = 0 := by
  have hdivision := Nat.div_add_mod' n d
  have hrest := Nat.mod_lt n hd
  have hnext : (n / d + 1) * d = n / d * d + d := Nat.succ_mul _ _
  unfold roundDiv at hk ⊢
  unfold gap
  split
  · rename_i hnear
    rw [if_pos hnear] at hk
    rcases Nat.lt_or_gt_of_ne hk with hless | hmore
    · have hbelow : (k + 1) * d ≤ n / d * d := Nat.mul_le_mul_right d hless
      rw [Nat.succ_mul] at hbelow
      omega
    · have habove : (n / d + 1) * d ≤ k * d := Nat.mul_le_mul_right d hmore
      omega
  · rename_i hfar
    rw [if_neg hfar] at hk
    rcases Nat.lt_or_gt_of_ne hk with hless | hmore
    · have hbelow : k * d ≤ n / d * d := Nat.mul_le_mul_right d (Nat.le_of_lt_succ hless)
      omega
    · have habove : (n / d + 1 + 1) * d ≤ k * d := Nat.mul_le_mul_right d hmore
      rw [Nat.succ_mul (n / d + 1)] at habove
      omega

end SpanExport
