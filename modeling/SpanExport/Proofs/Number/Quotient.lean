import Mathlib.Algebra.Group.Nat.Defs
import SpanExport.Number.Binary64

/-!
# The bits of a quotient

The binade of a quotient is the power of two that leaves 53 bits of it, or all where there are fewer.
-/

namespace SpanExport.Binary64

variable {q : Nat}

theorem lt_of_binade (q : Nat) : q / 2 ^ binade q < 2 ^ 53 := by
  have hlog : q < 2 ^ (q.log2 + 1) := Nat.lt_log2_self
  have hexp : q.log2 + 1 ≤ 53 + binade q := by
    unfold binade
    omega
  apply Nat.div_lt_of_lt_mul
  rw [Nat.mul_comm, ← Nat.pow_add]
  exact Nat.lt_of_lt_of_le hlog (Nat.pow_le_pow_right (by omega) hexp)

theorem le_of_binade (h : binade q ≠ 0) : 2 ^ 52 ≤ q / 2 ^ binade q := by
  have hq : q ≠ 0 := by
    rintro rfl
    exact h (by decide)
  have hlog : 2 ^ q.log2 ≤ q := Nat.log2_self_le hq
  have hexp : 52 + binade q = q.log2 := by
    unfold binade at h ⊢
    omega
  rw [Nat.le_div_iff_mul_le (Nat.two_pow_pos _), ← Nat.pow_add, hexp]
  exact hlog

theorem binade_le {bits : Nat} (h : q < 2 ^ bits) : binade q ≤ bits - 53 := by
  by_cases hq : q = 0
  · subst hq
    simp [binade]
  · have hlog : q.log2 < bits := (Nat.log2_lt hq).2 h
    unfold binade
    omega

end SpanExport.Binary64
