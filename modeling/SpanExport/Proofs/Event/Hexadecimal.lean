import SpanExport.Identifier
import SpanExport.Proofs.Number.Digits

/-!
# Reading identifiers

The text of an identifier reads back as the number that it was written for, whatever the sign and
however many digits it needs. So no two numbers have the same text.
-/

namespace SpanExport

namespace Identifier

/-! ## Reading -/

/-- What a digit stands for, in lower case above nine. -/
def digitValue (c : Char) : Nat := if c.isDigit then c.toNat - '0'.toNat else c.toNat - 'a'.toNat + 10

/-- Hexadecimal digits, read from left to right. -/
def magnitude (cs : List Char) : Nat := Digits.toNat 16 (cs.map digitValue)

/-- A number with or without a sign in front. -/
def readHex : List Char → Int
  | '-' :: cs => -(magnitude cs : Int)
  | cs => magnitude cs

theorem digitValue_digitChar {d : Nat} (h : d < 16) : digitValue (Nat.digitChar d) = d := by
  revert d
  decide

theorem digitChar_ne_minus {d : Nat} (h : d < 16) : Nat.digitChar d ≠ '-' := by
  revert d
  decide

theorem magnitude_padded (width n : Nat) : magnitude (Digits.padded width 16 n) = n := by
  have hzero : digitValue '0' = 0 := rfl
  have hdigits : ((Digits.ofNat 16 n).map Nat.digitChar).map digitValue = Digits.ofNat 16 n := by
    rw [List.map_map]
    refine (List.map_congr_left fun d hd => ?_).trans (List.map_id _)
    exact digitValue_digitChar (Digits.lt_of_mem_ofNat (by omega) hd)
  unfold magnitude Digits.padded Digits.text
  rw [List.map_append, List.map_replicate, hdigits, hzero, Digits.toNat_zeros_append,
    Digits.toNat_ofNat]

theorem minus_notMem_padded (width n : Nat) : '-' ∉ Digits.padded width 16 n := by
  unfold Digits.padded Digits.text
  intro h
  rcases List.mem_append.1 h with h | h
  · have hzero := List.eq_of_mem_replicate h
    revert hzero
    decide
  · obtain ⟨d, hd, hc⟩ := List.mem_map.1 h
    exact digitChar_ne_minus (Digits.lt_of_mem_ofNat (by omega) hd) hc

theorem readHex_of_notMem {cs : List Char} (h : '-' ∉ cs) : readHex cs = magnitude cs := by
  unfold readHex
  split
  · simp at h
  · rfl

theorem readHex_hexChars (width : Nat) (n : Int) : readHex (hexChars width n) = n := by
  unfold hexChars
  split
  · rw [readHex, magnitude_padded]
    omega
  · rw [readHex_of_notMem (minus_notMem_padded width n.natAbs), magnitude_padded]
    omega

/-! ## No two identifiers have one text -/

theorem hex_inj {width : Nat} {m n : Int} : hex width m = hex width n ↔ m = n := by
  constructor
  · intro h
    have hchars : hexChars width m = hexChars width n := by
      simpa [hex] using congrArg String.toList h
    have hread := congrArg readHex hchars
    rwa [readHex_hexChars, readHex_hexChars] at hread
  · rintro rfl
    rfl

theorem traceText_inj {m n : Int} : traceText m = traceText n ↔ m = n := hex_inj

theorem spanText_inj {m n : Int} : spanText m = spanText n ↔ m = n := hex_inj

end Identifier

end SpanExport
