import Mathlib.Data.String.Basic

/-!
# Well-formed UTF-8

Which bytes are those of a character, by the bounds of each byte. These are the sequences that
characters are encoded as, so bytes are well-formed just where they are the encoding of a text.
-/

namespace SpanExport.Utf8

/-! ## Sequences of bytes -/

/-- A byte after the first one of a sequence. -/
def IsTail (b : UInt8) : Prop := 0x80 ≤ b.toNat ∧ b.toNat ≤ 0xBF

/-- The bytes of one character. Where the first byte leaves it open, the second one tells whether
fewer bytes would do, whether it is a surrogate, and whether it is beyond the last code point. -/
def IsSequence : List UInt8 → Prop
  | [a] => a.toNat < 0x80
  | [a, b] => 0xC2 ≤ a.toNat ∧ a.toNat < 0xE0 ∧ IsTail b
  | [a, b, c] => 0xE0 ≤ a.toNat ∧ a.toNat < 0xF0 ∧ IsTail b ∧ IsTail c ∧
      (a.toNat = 0xE0 → 0xA0 ≤ b.toNat) ∧ (a.toNat = 0xED → b.toNat ≤ 0x9F)
  | [a, b, c, d] => 0xF0 ≤ a.toNat ∧ a.toNat ≤ 0xF4 ∧ IsTail b ∧ IsTail c ∧ IsTail d ∧
      (a.toNat = 0xF0 → 0x90 ≤ b.toNat) ∧ (a.toNat = 0xF4 → b.toNat ≤ 0x8F)
  | _ => False

/-- Bytes that are sequences one after the other. -/
inductive WellFormed : List UInt8 → Prop
  | nil : WellFormed []
  | append {seq rest : List UInt8} (h : IsSequence seq) (hrest : WellFormed rest) :
    WellFormed (seq ++ rest)

/-- The first byte tells how many bytes follow, so no sequence goes on after it is complete. -/
theorem IsSequence.eq_nil_of_append {seq more : List UInt8} (h : IsSequence seq)
    (hmore : IsSequence (seq ++ more)) : more = [] := by
  cases more with
  | nil => rfl
  | cons x more =>
    exfalso
    match seq, more with
    | [a], [] | [a], [_] | [a], [_, _] | [a, _], [] | [a, _], [_] | [a, _, _], [] =>
      simp only [List.cons_append, List.nil_append, IsSequence] at h hmore
      omega
    | [], _ => exact h
    | [_], _ :: _ :: _ :: _ | [_, _], _ :: _ :: _ | [_, _, _], _ :: _ | [_, _, _, _], _ =>
      exact hmore
    | _ :: _ :: _ :: _ :: _ :: _, _ => exact h

/-! ## Encoding -/

/-- What is left of the first byte without the mark that tells how many follow. -/
def leadBits (a : UInt8) : Nat :=
  if a.toNat < 0x80 then a.toNat
  else if a.toNat < 0xE0 then a.toNat - 0xC0
  else if a.toNat < 0xF0 then a.toNat - 0xE0
  else a.toNat - 0xF0

/-- Six more bits from a further byte. -/
def addTail (bits : Nat) (b : UInt8) : Nat := bits * 0x40 + (b.toNat - 0x80)

/-- The code point that a sequence stands for. -/
def codePoint : List UInt8 → Nat
  | [] => 0
  | a :: tails => tails.foldl addTail (leadBits a)

theorem isSequence_encodeChar (c : Char) : IsSequence (String.utf8EncodeChar c) := by
  have hvalid := c.valid
  simp only [UInt32.isValidChar, Nat.isValidChar] at hvalid
  unfold String.utf8EncodeChar
  simp only
  split
  · simp only [IsSequence, UInt8.toNat_ofNat']
    omega
  · split
    · simp only [IsSequence, IsTail, UInt8.toNat_ofNat']
      omega
    · split
      · simp only [IsSequence, IsTail, UInt8.toNat_ofNat']
        omega
      · simp only [IsSequence, IsTail, UInt8.toNat_ofNat']
        omega

theorem val_ofNat {n : Nat} (h : n.isValidChar) : (Char.ofNat n).val.toNat = n := by
  unfold Char.ofNat
  rw [dif_pos h]
  rfl

theorem IsSequence.isValidChar {seq : List UInt8} (h : IsSequence seq) :
    (codePoint seq).isValidChar := by
  unfold codePoint leadBits addTail
  match seq with
  | [a] | [a, b] | [a, b, c] | [a, b, c, d] =>
    simp only [IsSequence, IsTail] at h
    simp only [List.foldl_nil, List.foldl_cons, Nat.isValidChar]
    split_ifs <;> omega
  | [] | _ :: _ :: _ :: _ :: _ :: _ => exact False.elim h

section

variable {char : Char} {a b c d : UInt8}

theorem leadBits_two (h : 0x80 ≤ a.toNat) (h' : a.toNat < 0xE0) :
    leadBits a = a.toNat - 0xC0 := by
  unfold leadBits
  rw [if_neg (by omega), if_pos h']

theorem leadBits_three (h : 0xE0 ≤ a.toNat) (h' : a.toNat < 0xF0) :
    leadBits a = a.toNat - 0xE0 := by
  unfold leadBits
  rw [if_neg (by omega), if_neg (by omega), if_pos h']

theorem leadBits_four (h : 0xF0 ≤ a.toNat) : leadBits a = a.toNat - 0xF0 := by
  unfold leadBits
  rw [if_neg (by omega), if_neg (by omega), if_neg (by omega)]

theorem encodeChar_eq_one (h : IsSequence [a]) (hvalue : char.val.toNat = codePoint [a]) :
    String.utf8EncodeChar char = [a] := by
  have hcode : codePoint [a] = a.toNat := if_pos h
  rw [hcode] at hvalue
  simp only [IsSequence] at h
  unfold String.utf8EncodeChar
  simp only
  rw [if_pos (by omega), hvalue, UInt8.ofNat_toNat]

theorem encodeChar_eq_two (h : IsSequence [a, b]) (hvalue : char.val.toNat = codePoint [a, b]) :
    String.utf8EncodeChar char = [a, b] := by
  simp only [IsSequence, IsTail] at h
  have hcode : codePoint [a, b] = leadBits a * 0x40 + (b.toNat - 0x80) := rfl
  rw [hcode, leadBits_two (by omega) (by omega)] at hvalue
  unfold String.utf8EncodeChar
  simp only
  rw [if_neg (by omega), if_pos (by omega)]
  simp only [List.cons.injEq, ← UInt8.toNat_inj, UInt8.toNat_ofNat', and_true]
  omega

theorem encodeChar_eq_three (h : IsSequence [a, b, c])
    (hvalue : char.val.toNat = codePoint [a, b, c]) :
    String.utf8EncodeChar char = [a, b, c] := by
  simp only [IsSequence, IsTail] at h
  have hcode : codePoint [a, b, c] =
      (leadBits a * 0x40 + (b.toNat - 0x80)) * 0x40 + (c.toNat - 0x80) := rfl
  rw [hcode, leadBits_three (by omega) (by omega)] at hvalue
  unfold String.utf8EncodeChar
  simp only
  rw [if_neg (by omega), if_neg (by omega), if_pos (by omega)]
  simp only [List.cons.injEq, ← UInt8.toNat_inj, UInt8.toNat_ofNat', and_true]
  omega

theorem encodeChar_eq_four (h : IsSequence [a, b, c, d])
    (hvalue : char.val.toNat = codePoint [a, b, c, d]) :
    String.utf8EncodeChar char = [a, b, c, d] := by
  simp only [IsSequence, IsTail] at h
  have hcode : codePoint [a, b, c, d] =
      ((leadBits a * 0x40 + (b.toNat - 0x80)) * 0x40 + (c.toNat - 0x80)) * 0x40 +
        (d.toNat - 0x80) := rfl
  rw [hcode, leadBits_four (by omega)] at hvalue
  unfold String.utf8EncodeChar
  simp only
  rw [if_neg (by omega), if_neg (by omega), if_neg (by omega)]
  simp only [List.cons.injEq, ← UInt8.toNat_inj, UInt8.toNat_ofNat', and_true]
  omega

end

theorem IsSequence.encodeChar_codePoint {seq : List UInt8} (h : IsSequence seq) :
    String.utf8EncodeChar (Char.ofNat (codePoint seq)) = seq := by
  match seq, h with
  | [_], h => exact encodeChar_eq_one h (val_ofNat h.isValidChar)
  | [_, _], h => exact encodeChar_eq_two h (val_ofNat h.isValidChar)
  | [_, _, _], h => exact encodeChar_eq_three h (val_ofNat h.isValidChar)
  | [_, _, _, _], h => exact encodeChar_eq_four h (val_ofNat h.isValidChar)
  | _ :: _ :: _ :: _ :: _ :: _, h => exact False.elim h

/-! ## Texts -/

/-- The bytes of a text. -/
def encode (s : String) : List UInt8 := s.toUTF8.data.toList

theorem encode_eq_flatMap (s : String) : encode s = s.toList.flatMap String.utf8EncodeChar := by
  unfold encode
  rw [String.toUTF8_eq_toByteArray]
  conv_lhs => rw [← String.ofList_toList (s := s)]
  rw [String.toByteArray_ofList, List.utf8Encode, List.data_toByteArray]

theorem wellFormed_flatMap_encodeChar (cs : List Char) :
    WellFormed (cs.flatMap String.utf8EncodeChar) := by
  induction cs with
  | nil => exact .nil
  | cons c cs ih =>
    rw [List.flatMap_cons]
    exact .append (isSequence_encodeChar c) ih

theorem wellFormed_iff {bytes : List UInt8} : WellFormed bytes ↔ ∃ s, encode s = bytes := by
  constructor
  · intro h
    induction h with
    | nil => exact ⟨"", by rw [encode_eq_flatMap]; rfl⟩
    | @append seq rest hseq _ ih =>
      obtain ⟨s, rfl⟩ := ih
      refine ⟨String.ofList (Char.ofNat (codePoint seq) :: s.toList), ?_⟩
      rw [encode_eq_flatMap, encode_eq_flatMap, String.toList_ofList, List.flatMap_cons,
        hseq.encodeChar_codePoint]
  · rintro ⟨s, rfl⟩
    rw [encode_eq_flatMap]
    exact wellFormed_flatMap_encodeChar s.toList

end SpanExport.Utf8
