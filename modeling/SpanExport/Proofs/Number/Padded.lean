import Mathlib.Algebra.Order.Group.Nat
import Mathlib.Data.String.Basic
import Mathlib.Tactic.Tauto
import SpanExport.Proofs.Number.Digits

/-!
# Numbers of a fixed width

With zeros in front, all numbers below a power of the base have equally many digits. Their texts are
ordered as the numbers are, whatever follows them.
-/

namespace SpanExport.Digits

variable {base width m n : Nat}

/-! ## Order of texts -/

theorem eq_iff_eq_of_lt_iff {α β : Type} [LinearOrder α] [LinearOrder β] {a b : α} {x y : β}
    (h : a < b ↔ x < y) (h' : b < a ↔ y < x) : a = b ↔ x = y := by
  rw [← not_iff_not, ← ne_eq, ← ne_eq, ← lt_or_lt_iff_ne, ← lt_or_lt_iff_ne, h, h']

theorem append_lt_append_iff {xs ys us vs : List Char} (h : xs.length = ys.length) :
    xs ++ us < ys ++ vs ↔ xs < ys ∨ xs = ys ∧ us < vs := by
  induction xs generalizing ys with
  | nil =>
    obtain rfl := List.eq_nil_of_length_eq_zero h.symm
    simp
  | cons x xs ih =>
    cases ys with
    | nil => cases h
    | cons y ys =>
      rw [List.cons_append, List.cons_append, List.cons_lt_cons_iff, List.cons_lt_cons_iff,
        ih (Nat.succ.inj h), List.cons.injEq]
      tauto

theorem digitChar_lt_iff : ∀ d < 16, ∀ e < 16, Nat.digitChar d < Nat.digitChar e ↔ d < e := by
  decide

/-! ## The last digit -/

theorem length_padded (hbase : 2 ≤ base) (hwidth : width ≠ 0) (h : n < base ^ width) :
    (padded width base n).length = width := by
  have hlength : (text base n).length ≤ width := by
    rw [text, List.length_map]
    exact length_ofNat_le hbase hwidth h
  unfold padded
  rw [List.length_append, List.length_replicate]
  omega

theorem padded_one (h : n < base) : padded 1 base n = [Nat.digitChar n] := by
  have hone : ofNat base n = [n] := by rw [ofNat_eq, if_pos (.inl h)]
  unfold padded text
  rw [hone]
  rfl

theorem padded_succ (hbase : 2 ≤ base) (hwidth : width ≠ 0) (n : Nat) :
    padded (width + 1) base n = padded width base (n / base) ++ [Nat.digitChar (n % base)] := by
  unfold padded text
  by_cases hn : n < base
  · have hone : ofNat base n = [n] := by rw [ofNat_eq, if_pos (.inl hn)]
    have hzero : ofNat base (n / base) = [0] := by
      rw [Nat.div_eq_of_lt hn, ofNat_eq, if_pos (.inl (by omega))]
    obtain ⟨k, rfl⟩ := Nat.exists_eq_succ_of_ne_zero hwidth
    rw [hone, hzero, Nat.mod_eq_of_lt hn]
    exact congrArg (· ++ [Nat.digitChar n]) (List.replicate_succ' (n := k) (a := '0'))
  · have hmore : ofNat base n = ofNat base (n / base) ++ [n % base] := by
      rw [ofNat_eq, if_neg (by omega)]
    rw [hmore, List.map_append, List.length_append, List.map_singleton, List.length_singleton,
      Nat.add_sub_add_right, List.append_assoc]

/-! ## Order of numbers -/

theorem lt_iff_div_mod (m n base : Nat) :
    m < n ↔ m / base < n / base ∨ m / base = n / base ∧ m % base < n % base := by
  have hm := Nat.div_add_mod m base
  have hn := Nat.div_add_mod n base
  rcases Nat.lt_trichotomy (m / base) (n / base) with hlt | heq | hgt
  · exact iff_of_true (Nat.lt_of_div_lt_div hlt) (.inl hlt)
  · rw [heq] at hm ⊢
    omega
  · have hback := Nat.lt_of_div_lt_div hgt
    omega

theorem padded_lt_padded_iff (hbase : 2 ≤ base) (hsmall : base ≤ 16) (hwidth : width ≠ 0)
    (hm : m < base ^ width) (hn : n < base ^ width) :
    padded width base m < padded width base n ↔ m < n := by
  induction width generalizing m n with
  | zero => exact absurd rfl hwidth
  | succ width ih =>
    have hmod : ∀ k, k % base < 16 := fun k => (Nat.mod_lt k (by omega)).trans_le hsmall
    by_cases hone : width = 0
    · subst hone
      rw [Nat.zero_add, Nat.pow_one] at hm hn
      rw [padded_one hm, padded_one hn, List.cons_lt_cons_iff,
        digitChar_lt_iff m (by omega) n (by omega)]
      simp
    · have hquotient : ∀ {k}, k < base ^ (width + 1) → k / base < base ^ width := fun h =>
        Nat.div_lt_of_lt_mul (by rwa [Nat.mul_comm, ← Nat.pow_succ])
      have hlength : ∀ {k}, k < base ^ (width + 1) →
          (padded width base (k / base)).length = width :=
        fun h => length_padded hbase hone (hquotient h)
      have hless := ih hone (hquotient hm) (hquotient hn)
      have hsame := eq_iff_eq_of_lt_iff hless (ih hone (hquotient hn) (hquotient hm))
      rw [padded_succ hbase hone, padded_succ hbase hone,
        append_lt_append_iff ((hlength hm).trans (hlength hn).symm), hless, hsame,
        List.cons_lt_cons_iff, digitChar_lt_iff _ (hmod m) _ (hmod n)]
      simpa using (lt_iff_div_mod m n base).symm

theorem padded_append_lt_iff (hbase : 2 ≤ base) (hsmall : base ≤ 16) (hwidth : width ≠ 0)
    (hm : m < base ^ width) (hn : n < base ^ width) {us vs : List Char} :
    padded width base m ++ us < padded width base n ++ vs ↔ m < n ∨ m = n ∧ us < vs := by
  have hless := padded_lt_padded_iff hbase hsmall hwidth hm hn
  have hmore := padded_lt_padded_iff hbase hsmall hwidth hn hm
  have hlength := length_padded hbase hwidth hm
  rw [append_lt_append_iff (hlength.trans (length_padded hbase hwidth hn).symm), hless,
    eq_iff_eq_of_lt_iff hless hmore]

end SpanExport.Digits
