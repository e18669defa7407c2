import Mathlib.Algebra.Group.Nat.Defs
import SpanExport.Number.Digits

/-!
# Digits of a number

Each digit is below the base, zeros in front do not count and zeros at the end multiply. The number
of digits says between which powers of the base the number lies.
-/

namespace SpanExport.Digits

variable {base n : Nat}

theorem toNat_zeros_append (base k : Nat) (ds : List Nat) :
    toNat base (List.replicate k 0 ++ ds) = toNat base ds := by
  induction k with
  | zero => simp
  | succ k ih => simpa [toNat, List.replicate_succ] using ih

theorem toNat_append_zeros (base k : Nat) (ds : List Nat) :
    toNat base (ds ++ List.replicate k 0) = toNat base ds * base ^ k := by
  induction k with
  | zero => simp
  | succ k ih =>
    rw [List.replicate_succ', ← List.append_assoc, toNat_append_one, ih, Nat.pow_succ]
    rw [Nat.add_zero, Nat.mul_comm base, Nat.mul_assoc]

theorem lt_of_mem_ofNat {d : Nat} (hbase : 2 ≤ base) (h : d ∈ ofNat base n) : d < base := by
  induction n using Nat.strongRecOn with
  | ind n ih =>
    rw [ofNat_eq] at h
    split at h
    · have hd : d = n := List.mem_singleton.1 h
      omega
    · have hsmaller : n / base < n := Nat.div_lt_self (by omega) (by omega)
      rcases List.mem_append.1 h with h | h
      · exact ih (n / base) hsmaller h
      · rw [List.mem_singleton.1 h]
        exact Nat.mod_lt n (by omega)

theorem lt_pow_length (hbase : 2 ≤ base) (n : Nat) : n < base ^ (ofNat base n).length := by
  induction n using Nat.strongRecOn with
  | ind n ih =>
    rw [ofNat_eq]
    split
    · rw [List.length_singleton, Nat.pow_one]
      omega
    · have hquotient := ih (n / base) (Nat.div_lt_self (by omega) (by omega))
      rw [List.length_append, List.length_singleton, Nat.pow_succ]
      exact (Nat.div_lt_iff_lt_mul (by omega)).1 hquotient

theorem pow_length_le (hbase : 2 ≤ base) (hn : n ≠ 0) :
    base ^ ((ofNat base n).length - 1) ≤ n := by
  induction n using Nat.strongRecOn with
  | ind n ih =>
    rw [ofNat_eq]
    split
    · rw [List.length_singleton, Nat.sub_self, Nat.pow_zero]
      omega
    · have hlength : (ofNat base (n / base)).length ≠ 0 :=
        mt List.eq_nil_of_length_eq_zero (ofNat_ne_nil base (n / base))
      have hpositive : n / base ≠ 0 := by
        have := Nat.div_pos (show base ≤ n by omega) (by omega)
        omega
      have hquotient := ih (n / base) (Nat.div_lt_self (by omega) (by omega)) hpositive
      rw [List.length_append, List.length_singleton, Nat.add_sub_cancel]
      calc base ^ (ofNat base (n / base)).length
          = base ^ ((ofNat base (n / base)).length - 1) * base := by
            rw [← Nat.pow_succ, Nat.succ_eq_add_one, Nat.sub_add_cancel (by omega)]
        _ ≤ n / base * base := Nat.mul_le_mul_right _ hquotient
        _ ≤ n := Nat.div_mul_le_self n base

theorem length_ofNat_le {width : Nat} (hbase : 2 ≤ base) (hwidth : width ≠ 0)
    (h : n < base ^ width) : (ofNat base n).length ≤ width := by
  by_cases hn : n = 0
  · subst hn
    rw [ofNat_eq, if_pos (.inl (by omega))]
    exact Nat.one_le_iff_ne_zero.2 hwidth
  · have hpow : base ^ ((ofNat base n).length - 1) < base ^ width :=
      Nat.lt_of_le_of_lt (pow_length_le hbase hn) h
    have hlength := (Nat.pow_lt_pow_iff_right (by omega)).1 hpow
    omega

end SpanExport.Digits
