import Mathlib.Algebra.Group.Int.Defs
import SpanExport.Proofs.Event.Hexadecimal
import SpanExport.Proofs.Number.Padded

/-!
# Identifiers of a fixed width

The text of an identifier is a hexadecimal number in lower case. It is never narrower than the
identifiers of its kind, and has their width without a sign just where the number is one of them. On
these the texts are ordered as the numbers are.
-/

namespace SpanExport

/-! ## Digits -/

namespace Digits

variable {base width n : Nat}

theorem le_length_padded (width base n : Nat) : width ≤ (padded width base n).length := by
  unfold padded
  rw [List.length_append, List.length_replicate]
  omega

theorem padded_ne_nil (width base n : Nat) : padded width base n ≠ [] := by
  unfold padded text
  simp [ofNat_ne_nil]

theorem length_padded_eq_iff (hbase : 2 ≤ base) (hwidth : width ≠ 0) :
    (padded width base n).length = width ↔ n < base ^ width := by
  refine ⟨fun h => ?_, length_padded hbase hwidth⟩
  have hlength : (ofNat base n).length ≤ width := by
    unfold padded text at h
    rw [List.length_append, List.length_replicate, List.length_map] at h
    omega
  exact (lt_pow_length hbase n).trans_le (Nat.pow_le_pow_right (by omega) hlength)

end Digits

namespace Identifier

/-- A hexadecimal digit in lower case. -/
def IsHexDigit (c : Char) : Prop := '0' ≤ c ∧ c ≤ '9' ∨ 'a' ≤ c ∧ c ≤ 'f'

theorem isHexDigit_digitChar {d : Nat} (h : d < 16) : IsHexDigit (Nat.digitChar d) := by
  unfold IsHexDigit
  revert d
  decide

theorem isHexDigit_of_mem_padded {width n : Nat} {c : Char} (h : c ∈ Digits.padded width 16 n) :
    IsHexDigit c := by
  unfold Digits.padded Digits.text at h
  rcases List.mem_append.1 h with h | h
  · rw [List.eq_of_mem_replicate h]
    exact isHexDigit_digitChar (d := 0) (by decide)
  · obtain ⟨d, hd, rfl⟩ := List.mem_map.1 h
    exact isHexDigit_digitChar (Digits.lt_of_mem_ofNat (by decide) hd)

/-! ## Width -/

variable {width : Nat}

theorem hexChars_of_neg {n : Int} (h : n < 0) :
    hexChars width n = '-' :: Digits.padded (width - 1) 16 n.natAbs := if_pos h

theorem hexChars_of_nonneg {n : Int} (h : 0 ≤ n) :
    hexChars width n = Digits.padded width 16 n.natAbs := if_neg (by omega)

theorem hexChars_eq_append (width : Nat) (n : Int) :
    ∃ sign digits, hexChars width n = sign ++ digits ∧ (sign = [] ∨ sign = ['-']) ∧
      digits ≠ [] ∧ ∀ c ∈ digits, IsHexDigit c := by
  by_cases hn : n < 0
  · exact ⟨['-'], _, hexChars_of_neg hn, .inr rfl, Digits.padded_ne_nil _ _ _,
      fun _ => isHexDigit_of_mem_padded⟩
  · exact ⟨[], _, hexChars_of_nonneg (Int.not_lt.1 hn), .inl rfl, Digits.padded_ne_nil _ _ _,
      fun _ => isHexDigit_of_mem_padded⟩

theorem le_length_hexChars (width : Nat) (n : Int) : width ≤ (hexChars width n).length := by
  by_cases hn : n < 0
  · have hdigits := Digits.le_length_padded (width - 1) 16 n.natAbs
    rw [hexChars_of_neg hn, List.length_cons]
    omega
  · rw [hexChars_of_nonneg (Int.not_lt.1 hn)]
    exact Digits.le_length_padded width 16 n.natAbs

theorem natAbs_lt_pow_iff {n : Int} (h : 0 ≤ n) :
    n.natAbs < 16 ^ width ↔ n < 2 ^ (4 * width) := by
  have hpow : ((16 ^ width : Nat) : Int) = 2 ^ (4 * width) := by
    rw [Int.natCast_pow, pow_mul]
    rfl
  rw [← hpow]
  omega

theorem length_hexChars_eq_iff (hwidth : width ≠ 0) (n : Int) :
    (hexChars width n).length = width ∧ '-' ∉ hexChars width n ↔
      0 ≤ n ∧ n < 2 ^ (4 * width) := by
  by_cases hn : n < 0
  · rw [hexChars_of_neg hn]
    exact iff_of_false (fun h => h.2 List.mem_cons_self) (fun h => absurd h.1 (by omega))
  · have hnonneg := Int.not_lt.1 hn
    rw [hexChars_of_nonneg hnonneg, Digits.length_padded_eq_iff (by decide) hwidth,
      natAbs_lt_pow_iff hnonneg]
    exact ⟨fun h => ⟨hnonneg, h.1⟩, fun h => ⟨h.2, minus_notMem_padded width n.natAbs⟩⟩

/-! ## Order -/

theorem hex_lt_hex_iff (hwidth : width ≠ 0) {m n : Int} (hm : 0 ≤ m) (hn : 0 ≤ n)
    (hmbound : m < 2 ^ (4 * width)) (hnbound : n < 2 ^ (4 * width)) :
    hex width m < hex width n ↔ m < n := by
  have hchars := Digits.padded_lt_padded_iff (by decide) (by decide) hwidth
    ((natAbs_lt_pow_iff hm).2 hmbound) ((natAbs_lt_pow_iff hn).2 hnbound)
  unfold hex
  rw [String.lt_iff_toList_lt, String.toList_ofList, String.toList_ofList,
    hexChars_of_nonneg hm, hexChars_of_nonneg hn, hchars]
  omega

/-! ## The code -/

/-- A way to write numbers down of which nothing is lost, and which is of one width and in order for
the numbers from zero up to a limit. -/
structure IsFixedWidth (width : Nat) (limit : Int) (code : Int → String) : Prop where
  reads_back : ∀ n, readHex (code n).toList = n
  numeral : ∀ n, ∃ sign digits, (code n).toList = sign ++ digits ∧ (sign = [] ∨ sign = ['-']) ∧
    digits ≠ [] ∧ ∀ c ∈ digits, IsHexDigit c
  width_le : ∀ n, width ≤ (code n).length
  length_eq_iff : ∀ n, (code n).length = width ∧ '-' ∉ (code n).toList ↔ 0 ≤ n ∧ n < limit
  lt_iff : ∀ m n, 0 ≤ m → m < limit → 0 ≤ n → n < limit → (code m < code n ↔ m < n)

theorem hex_isFixedWidth (hwidth : width ≠ 0) :
    IsFixedWidth width (2 ^ (4 * width)) (hex width) where
  reads_back n := by rw [hex, String.toList_ofList, readHex_hexChars]
  numeral n := by rw [hex, String.toList_ofList]; exact hexChars_eq_append width n
  width_le n := by rw [hex, String.length_ofList]; exact le_length_hexChars width n
  length_eq_iff n := by
    rw [hex, String.length_ofList, String.toList_ofList]
    exact length_hexChars_eq_iff hwidth n
  lt_iff _ _ hm hmbound hn hnbound := hex_lt_hex_iff hwidth hm hn hmbound hnbound

/-- Identifiers of traces are numbers of 128 bits in 32 digits, those of spans of 64 bits in 16. -/
theorem texts_isFixedWidth :
    IsFixedWidth 32 (2 ^ 128) traceText ∧ IsFixedWidth 16 (2 ^ 64) spanText :=
  ⟨hex_isFixedWidth (by decide), hex_isFixedWidth (by decide)⟩

end Identifier

end SpanExport
