import SpanExport.Proofs.Text.WellFormed
import SpanExport.Value.Field

/-!
# Decoding UTF-8

Bytes are read character by character. Where no character can be read, the longest piece that
begins one becomes a single replacement character, or else a single byte does. So well-formed bytes
are read as the text that they encode, whatever follows them.
-/

namespace SpanExport

namespace Utf8

/-! ## What bytes are read as -/

/-- A part that is damaged as a whole: no character can be read where it begins, and it is the
longest piece there that begins a character, or a single byte. -/
structure IsMaximalSubpart (part rest : List UInt8) : Prop where
  ne_nil : part ≠ []
  unconvertible : ∀ seq, IsSequence seq → ¬ seq <+: part ++ rest
  begins : (∃ more, IsSequence (part ++ more)) ∨ part.length = 1
  longest : ∀ longer, longer <+: part ++ rest →
    (∃ more, IsSequence (longer ++ more)) ∨ longer.length = 1 → longer.length ≤ part.length

/-- Characters one after the other, and a replacement for each damaged part. -/
inductive Decodes : List UInt8 → List Char → Prop
  | nil : Decodes [] []
  | char {rest : List UInt8} {cs : List Char} (c : Char) (h : Decodes rest cs) :
    Decodes (String.utf8EncodeChar c ++ rest) (c :: cs)
  | damage {part rest : List UInt8} {cs : List Char} (hpart : IsMaximalSubpart part rest)
    (h : Decodes rest cs) : Decodes (part ++ rest) (replacement :: cs)

/-! ## There is one reading -/

theorem IsSequence.eq_of_isPrefix {seq other : List UInt8} (h : IsSequence seq)
    (hother : IsSequence other) (hle : seq <+: other) : seq = other := by
  obtain ⟨more, rfl⟩ := hle
  rw [h.eq_nil_of_append hother, List.append_nil]

theorem encodeChar_append_inj {c d : Char} {rest rest' : List UInt8}
    (h : String.utf8EncodeChar c ++ rest = String.utf8EncodeChar d ++ rest') :
    c = d ∧ rest = rest' := by
  have hchar := congrArg (fun bytes => bytes.toByteArray.utf8DecodeChar? 0) h
  simp only [List.toByteArray_append, ByteArray.utf8DecodeChar?_utf8EncodeChar_append,
    Option.some.injEq] at hchar
  subst hchar
  exact ⟨rfl, List.append_cancel_left h⟩

namespace IsMaximalSubpart

variable {part other rest rest' : List UInt8}

theorem append_inj (hpart : IsMaximalSubpart part rest) (hother : IsMaximalSubpart other rest')
    (h : part ++ rest = other ++ rest') : part = other ∧ rest = rest' := by
  refine List.append_inj h (Nat.le_antisymm ?_ ?_)
  · exact hother.longest part ⟨rest, h⟩ hpart.begins
  · exact hpart.longest other ⟨rest', h.symm⟩ hother.begins

theorem ne_encodeChar_append (hpart : IsMaximalSubpart part rest) (c : Char) :
    part ++ rest ≠ String.utf8EncodeChar c ++ rest' := fun h =>
  hpart.unconvertible _ (isSequence_encodeChar c) ⟨rest', h.symm⟩

end IsMaximalSubpart

theorem Decodes.unique {bytes : List UInt8} {cs ds : List Char} (h : Decodes bytes cs)
    (h' : Decodes bytes ds) : cs = ds := by
  induction h generalizing ds with
  | nil =>
    generalize hbytes : [] = bytes at h'
    cases h' with
    | nil => rfl
    | char d =>
      exact absurd (List.append_eq_nil_iff.1 hbytes.symm).1 String.utf8EncodeChar_ne_nil
    | damage hother => exact absurd (List.append_eq_nil_iff.1 hbytes.symm).1 hother.ne_nil
  | @char rest _ c h ih =>
    generalize hbytes : String.utf8EncodeChar c ++ rest = bytes at h'
    cases h' with
    | nil => exact absurd (List.append_eq_nil_iff.1 hbytes).1 String.utf8EncodeChar_ne_nil
    | char d h' =>
      obtain ⟨rfl, rfl⟩ := encodeChar_append_inj hbytes
      rw [ih h']
    | damage hother => exact absurd hbytes.symm (hother.ne_encodeChar_append c)
  | @damage part rest _ hpart h ih =>
    generalize hbytes : part ++ rest = bytes at h'
    cases h' with
    | nil => exact absurd (List.append_eq_nil_iff.1 hbytes).1 hpart.ne_nil
    | char d => exact absurd hbytes (hpart.ne_encodeChar_append d)
    | damage hother h' =>
      obtain ⟨rfl, rfl⟩ := hpart.append_inj hother hbytes
      rw [ih h']

theorem decodes_append {bytes : List UInt8} {ds : List Char} (cs : List Char)
    (h : Decodes bytes ds) : Decodes (cs.flatMap String.utf8EncodeChar ++ bytes) (cs ++ ds) := by
  induction cs with
  | nil => exact h
  | cons c cs ih =>
    rw [List.flatMap_cons, List.append_assoc, List.cons_append]
    exact .char c ih

/-! ## Bytes that are pending -/

/-- As many bytes as are due, none of which begins a character. -/
def AreTails : Nat → List UInt8 → Prop
  | 0, [] => True
  | n + 1, b :: bytes => IsTail b ∧ AreTails n bytes
  | _, _ => False

/-- The bytes complete what is pending: the next one is in its bounds, and all that are due after it
follow. -/
def Pending.Completes (p : Pending) : List UInt8 → Prop
  | [] => False
  | b :: bytes => (p.low ≤ b.toNat ∧ b.toNat ≤ p.high) ∧ AreTails p.more bytes

/-- What is pending after the first bytes of a character. -/
structure Follows (part : List UInt8) (p : Pending) : Prop where
  ne_nil : part ≠ []
  low_le_high : p.low ≤ p.high
  high_le : p.high ≤ 0xBF
  bits_eq : p.bits = codePoint part
  isSequence_iff : ∀ rest, IsSequence (part ++ rest) ↔ p.Completes rest

theorem codePoint_append {part : List UInt8} (h : part ≠ []) (rest : List UInt8) :
    codePoint (part ++ rest) = rest.foldl addTail (codePoint part) := by
  cases part with
  | nil => exact absurd rfl h
  | cons a tails => exact List.foldl_append

section

variable {a : Nat}

theorem lead?_two (h : 0xC2 ≤ a) (h' : a < 0xE0) : lead? a = some ⟨a - 0xC0, 0x80, 0xBF, 0⟩ := by
  unfold lead?
  rw [if_neg (by omega), if_pos h']

theorem lead?_three (h : 0xE0 ≤ a) (h' : a < 0xF0) : lead? a =
    some ⟨a - 0xE0, if a = 0xE0 then 0xA0 else 0x80, if a = 0xED then 0x9F else 0xBF, 1⟩ := by
  by_cases hlow : a = 0xE0
  · subst hlow
    rfl
  · by_cases hhigh : a = 0xED
    · subst hhigh
      rfl
    · unfold lead?
      rw [if_neg (by omega), if_neg (by omega), if_neg hlow, if_neg hhigh, if_pos h', if_neg hlow,
        if_neg hhigh]

theorem lead?_four (h : 0xF0 ≤ a) (h' : a ≤ 0xF4) : lead? a =
    some ⟨a - 0xF0, if a = 0xF0 then 0x90 else 0x80, if a = 0xF4 then 0x8F else 0xBF, 2⟩ := by
  by_cases hlow : a = 0xF0
  · subst hlow
    rfl
  · by_cases hhigh : a = 0xF4
    · subst hhigh
      rfl
    · unfold lead?
      rw [if_neg (by omega), if_neg (by omega), if_neg (by omega), if_neg (by omega),
        if_neg (by omega), if_neg hlow, if_pos (by omega), if_neg hlow, if_neg hhigh]

theorem lead?_none (h : a < 0xC2 ∨ 0xF4 < a) : lead? a = none := by
  unfold lead?
  split_ifs <;> first | rfl | omega

end

section

variable {a : UInt8}

theorem follows_two (h : 0xC2 ≤ a.toNat) (h' : a.toNat < 0xE0) :
    Follows [a] ⟨a.toNat - 0xC0, 0x80, 0xBF, 0⟩ where
  ne_nil := List.cons_ne_nil a []
  low_le_high := by simp only; omega
  high_le := by simp only; omega
  bits_eq := (leadBits_two (by omega) h').symm
  isSequence_iff rest := by
    match rest with
    | [b] =>
      simp only [IsSequence, IsTail, Pending.Completes, AreTails, List.cons_append,
        List.nil_append, and_true]
      omega
    | [] | [b, c] | [b, c, d] =>
      simp only [IsSequence, IsTail, Pending.Completes, AreTails, List.cons_append,
        List.nil_append, and_false, iff_false]
      omega
    | _ :: _ :: _ :: _ :: _ =>
      simp only [IsSequence, Pending.Completes, AreTails, List.cons_append, List.nil_append,
        and_false]

theorem follows_three (h : 0xE0 ≤ a.toNat) (h' : a.toNat < 0xF0) :
    Follows [a] ⟨a.toNat - 0xE0, if a.toNat = 0xE0 then 0xA0 else 0x80,
      if a.toNat = 0xED then 0x9F else 0xBF, 1⟩ where
  ne_nil := List.cons_ne_nil a []
  low_le_high := by simp only; split_ifs <;> omega
  high_le := by simp only; split_ifs <;> omega
  bits_eq := (leadBits_three h h').symm
  isSequence_iff rest := by
    match rest with
    | [b, c] =>
      simp only [IsSequence, IsTail, Pending.Completes, AreTails, List.cons_append,
        List.nil_append, and_true]
      split_ifs <;> omega
    | [] | [b] | [b, c, d] =>
      simp only [IsSequence, IsTail, Pending.Completes, AreTails, List.cons_append,
        List.nil_append, and_false, iff_false]
      omega
    | _ :: _ :: _ :: _ :: _ =>
      simp only [IsSequence, Pending.Completes, AreTails, List.cons_append, List.nil_append,
        and_false]

theorem follows_four (h : 0xF0 ≤ a.toNat) (h' : a.toNat ≤ 0xF4) :
    Follows [a] ⟨a.toNat - 0xF0, if a.toNat = 0xF0 then 0x90 else 0x80,
      if a.toNat = 0xF4 then 0x8F else 0xBF, 2⟩ where
  ne_nil := List.cons_ne_nil a []
  low_le_high := by simp only; split_ifs <;> omega
  high_le := by simp only; split_ifs <;> omega
  bits_eq := (leadBits_four h).symm
  isSequence_iff rest := by
    match rest with
    | [b, c, d] =>
      simp only [IsSequence, IsTail, Pending.Completes, AreTails, List.cons_append,
        List.nil_append, and_true]
      split_ifs <;> omega
    | [] | [b] | [b, c] =>
      simp only [IsSequence, IsTail, Pending.Completes, AreTails, List.cons_append,
        List.nil_append, and_false, iff_false]
      omega
    | _ :: _ :: _ :: _ :: _ =>
      simp only [IsSequence, Pending.Completes, AreTails, List.cons_append, List.nil_append,
        and_false]

theorem exists_follows (h : 0xC2 ≤ a.toNat) (h' : a.toNat ≤ 0xF4) :
    ∃ p, lead? a.toNat = some p ∧ Follows [a] p := by
  by_cases htwo : a.toNat < 0xE0
  · exact ⟨_, lead?_two h htwo, follows_two h htwo⟩
  · by_cases hthree : a.toNat < 0xF0
    · exact ⟨_, lead?_three (by omega) hthree, follows_three (by omega) hthree⟩
    · exact ⟨_, lead?_four (by omega) h', follows_four (by omega) h'⟩

end

namespace Follows

variable {part : List UInt8} {p : Pending}

theorem exists_completes (h : Follows part p) : ∃ rest, p.Completes rest := by
  have htails : ∀ n, AreTails n (List.replicate n 0x80) := by
    intro n
    induction n with
    | zero => exact trivial
    | succ n ih => exact ⟨⟨by decide, by decide⟩, ih⟩
  have hlow : (UInt8.ofNat p.low).toNat = p.low := by
    have := h.low_le_high
    have := h.high_le
    rw [UInt8.toNat_ofNat']
    omega
  refine ⟨UInt8.ofNat p.low :: List.replicate p.more 0x80, ⟨?_, ?_⟩, htails p.more⟩
  · rw [hlow]
  · rw [hlow]
    exact h.low_le_high

theorem not_isPrefix (h : Follows part p) {seq : List UInt8} (hseq : IsSequence seq) :
    ¬ seq <+: part := by
  intro hle
  obtain ⟨rest, hrest⟩ := h.exists_completes
  have hwhole := hseq.eq_of_isPrefix ((h.isSequence_iff rest).2 hrest)
    (hle.trans (List.prefix_append part rest))
  cases rest with
  | nil => exact hrest
  | cons b bytes =>
    have hlength := hle.length_le
    rw [hwhole, List.length_append, List.length_cons] at hlength
    omega

theorem next (h : Follows part p) {b : UInt8} (hb : p.low ≤ b.toNat ∧ b.toNat ≤ p.high) {n : Nat}
    (hmore : p.more = n + 1) :
    Follows (part ++ [b]) ⟨p.bits * 0x40 + (b.toNat - 0x80), 0x80, 0xBF, n⟩ where
  ne_nil := by simp
  low_le_high := by simp only; omega
  high_le := by simp only; omega
  bits_eq := by rw [codePoint_append h.ne_nil, ← h.bits_eq]; rfl
  isSequence_iff rest := by
    rw [List.append_assoc, List.singleton_append, h.isSequence_iff, Pending.Completes, hmore]
    cases rest with
    | nil => simp [AreTails, Pending.Completes]
    | cons c rest => exact and_iff_right hb

theorem encodeChar_eq (h : Follows part p) {b : UInt8} (hb : p.low ≤ b.toNat ∧ b.toNat ≤ p.high)
    (hmore : p.more = 0) :
    String.utf8EncodeChar (Char.ofNat (p.bits * 0x40 + (b.toNat - 0x80))) = part ++ [b] := by
  have hseq : IsSequence (part ++ [b]) :=
    (h.isSequence_iff [b]).2 ⟨hb, by rw [hmore]; exact trivial⟩
  have hcode : codePoint (part ++ [b]) = p.bits * 0x40 + (b.toNat - 0x80) := by
    rw [codePoint_append h.ne_nil, ← h.bits_eq]
    rfl
  rw [← hcode]
  exact hseq.encodeChar_codePoint

theorem isMaximalSubpart (h : Follows part p) {rest : List UInt8}
    (hrest : ∀ b bytes, rest = b :: bytes → ¬ (p.low ≤ b.toNat ∧ b.toNat ≤ p.high)) :
    IsMaximalSubpart part rest := by
  have hlonger : ∀ longer, longer <+: part ++ rest → part.length < longer.length →
      ∀ more, ¬ IsSequence (longer ++ more) := by
    intro longer hle hlength more hseq
    obtain ⟨ext, rfl⟩ := List.prefix_of_prefix_length_le (List.prefix_append part rest) hle
      (Nat.le_of_lt hlength)
    rw [List.prefix_append_right_inj] at hle
    cases ext with
    | nil => simp at hlength
    | cons b ext =>
      obtain ⟨bytes, rfl⟩ := hle
      rw [List.append_assoc, h.isSequence_iff] at hseq
      exact hrest b _ rfl hseq.1
  have hpart : 0 < part.length := List.length_pos_iff.2 h.ne_nil
  refine ⟨h.ne_nil, fun seq hseq hle => ?_, .inl ?_, fun longer hle hbegins => ?_⟩
  · by_cases hlength : part.length < seq.length
    · exact hlonger seq hle hlength [] (by rwa [List.append_nil])
    · exact h.not_isPrefix hseq (List.prefix_of_prefix_length_le hle
        (List.prefix_append part rest) (Nat.not_lt.1 hlength))
  · obtain ⟨more, hmore⟩ := h.exists_completes
    exact ⟨more, (h.isSequence_iff more).2 hmore⟩
  · by_contra hlength
    rcases hbegins with ⟨more, hmore⟩ | hone
    · exact hlonger longer hle (Nat.not_le.1 hlength) more hmore
    · omega

end Follows

/-! ## The decoder -/

theorem IsSequence.first_bounds {a : UInt8} {more : List UInt8} (h : IsSequence (a :: more)) :
    a.toNat < 0x80 ∨ 0xC2 ≤ a.toNat ∧ a.toNat ≤ 0xF4 := by
  match more with
  | [] | [_] | [_, _] | [_, _, _] =>
    simp only [IsSequence] at h
    omega
  | _ :: _ :: _ :: _ :: _ => exact False.elim h

theorem isMaximalSubpart_single {b : UInt8} (hb : 0x80 ≤ b.toNat)
    (hlead : b.toNat < 0xC2 ∨ 0xF4 < b.toNat) (rest : List UInt8) : IsMaximalSubpart [b] rest := by
  have hnone : ∀ more, ¬ IsSequence (b :: more) := by
    intro more h
    have := h.first_bounds
    omega
  refine ⟨List.cons_ne_nil b [], fun seq hseq hle => ?_, .inr rfl, fun longer hle hbegins => ?_⟩
  · obtain ⟨more, hmore⟩ := hle
    cases seq with
    | nil => exact hseq
    | cons a seq =>
      obtain ⟨rfl, -⟩ := List.cons.inj hmore
      exact hnone seq hseq
  · rcases hbegins with ⟨more, hmore⟩ | hone
    · obtain ⟨ext, hext⟩ := hle
      cases longer with
      | nil => exact Nat.zero_le 1
      | cons a longer =>
        obtain ⟨rfl, -⟩ := List.cons.inj hext
        exact absurd hmore (hnone _)
    · exact Nat.le_of_eq hone

theorem decodes_start {b : UInt8} {bytes : List UInt8}
    (hnone : Decodes bytes (decodeFrom none bytes))
    (hsome : ∀ part p, Follows part p → Decodes (part ++ bytes) (decodeFrom (some p) bytes)) :
    Decodes (b :: bytes)
      ((start b.toNat).1 ++ decodeFrom (start b.toNat).2 bytes) := by
  by_cases hascii : b.toNat < 0x80
  · have hstart : start b.toNat = ([Char.ofNat b.toNat], none) := if_pos hascii
    have hseq : IsSequence [b] := hascii
    have hcode : codePoint [b] = b.toNat := if_pos hascii
    have hchar : String.utf8EncodeChar (Char.ofNat b.toNat) = [b] := by
      rw [← hcode]
      exact hseq.encodeChar_codePoint
    rw [hstart]
    have hdecodes := Decodes.char (Char.ofNat b.toNat) hnone
    rwa [hchar] at hdecodes
  · by_cases hlead : b.toNat < 0xC2 ∨ 0xF4 < b.toNat
    · have hstart : start b.toNat = ([replacement], none) := by
        unfold start
        rw [if_neg hascii, lead?_none hlead]
      rw [hstart]
      exact .damage (isMaximalSubpart_single (Nat.not_lt.1 hascii) hlead bytes) hnone
    · obtain ⟨p, hp, hfollows⟩ := exists_follows (a := b) (by omega) (by omega)
      have hstart : start b.toNat = ([], some p) := by
        unfold start
        rw [if_neg hascii, hp]
      rw [hstart]
      exact hsome [b] p hfollows

/-- Reading is told by what is pending: nothing, or what follows the bytes that came last. -/
theorem decodes_decodeFrom (bytes : List UInt8) :
    Decodes bytes (decodeFrom none bytes) ∧
      ∀ part p, Follows part p → Decodes (part ++ bytes) (decodeFrom (some p) bytes) := by
  -- Both go through the induction together: a byte begins something or adds to what is pending.
  induction bytes with
  | nil =>
    refine ⟨.nil, fun part p h => ?_⟩
    exact .damage (h.isMaximalSubpart fun b bytes hbytes => by cases hbytes) .nil
  | cons b bytes ih =>
    obtain ⟨hnone, hsome⟩ := ih
    refine ⟨decodes_start hnone hsome, fun part p h => ?_⟩
    rw [decodeFrom, feed, continueWith]
    by_cases hb : p.low ≤ b.toNat ∧ b.toNat ≤ p.high
    · rw [if_pos hb]
      cases hmore : p.more with
      | zero =>
        have hdecodes := Decodes.char (Char.ofNat (p.bits * 0x40 + (b.toNat - 0x80))) hnone
        rwa [h.encodeChar_eq hb hmore, List.append_assoc] at hdecodes
      | succ n =>
        have hdecodes := hsome _ _ (h.next hb hmore)
        rwa [List.append_assoc] at hdecodes
    · rw [if_neg hb]
      refine .damage (h.isMaximalSubpart fun c rest hrest => ?_) (decodes_start hnone hsome)
      obtain ⟨rfl, -⟩ := List.cons.inj hrest
      exact hb

theorem decodes_decode (bytes : List UInt8) : Decodes bytes (decode bytes).toList := by
  unfold decode
  rw [String.toList_ofList]
  exact (decodes_decodeFrom bytes).1

/-! ## Texts -/

theorem decode_encode_append (s : String) (rest : List UInt8) :
    decode (encode s ++ rest) = s ++ decode rest := by
  have hrest := decodes_append s.toList (decodes_decode rest)
  rw [← encode_eq_flatMap] at hrest
  refine String.ext ?_
  rw [String.toList_append]
  exact (decodes_decode _).unique hrest

theorem decode_encode (s : String) : decode (encode s) = s := by
  have h := decode_encode_append s []
  have hempty : decode [] = "" := rfl
  rwa [List.append_nil, hempty, String.append_empty] at h

theorem encode_decode_iff {bytes : List UInt8} :
    encode (decode bytes) = bytes ↔ WellFormed bytes := by
  refine ⟨fun h => wellFormed_iff.2 ⟨_, h⟩, fun h => ?_⟩
  obtain ⟨s, rfl⟩ := wellFormed_iff.1 h
  rw [decode_encode]

end Utf8

namespace Value

/-- Bytes become a text of which as much as possible is kept: each text is read back, each part that
is damaged becomes one replacement, and no damage changes what was read before it. -/
structure IsReadAsUtf8 (make : List UInt8 → Value) : Prop where
  encoded : ∀ s, (make (Utf8.encode s)).toField = .ok (.text s)
  lossless_iff : ∀ bytes, ∃ s, (make bytes).toField = .ok (.text s) ∧
    Utf8.Decodes bytes s.toList ∧ (Utf8.encode s = bytes ↔ Utf8.WellFormed bytes)
  appended : ∀ first rest, Utf8.WellFormed first →
    ∃ s t, (make first).toField = .ok (.text s) ∧ (make rest).toField = .ok (.text t) ∧
      (make (first ++ rest)).toField = .ok (.text (s ++ t))

theorem isReadAsUtf8_of_toField {make : List UInt8 → Value}
    (h : ∀ bytes, (make bytes).toField = .ok (.text (Utf8.decode bytes))) : IsReadAsUtf8 make where
  encoded s := by rw [h, Utf8.decode_encode]
  lossless_iff bytes :=
    ⟨_, h bytes, Utf8.decodes_decode bytes, Utf8.encode_decode_iff⟩
  appended first rest hfirst := by
    obtain ⟨s, rfl⟩ := Utf8.wellFormed_iff.1 hfirst
    refine ⟨s, Utf8.decode rest, ?_, h rest, ?_⟩
    · rw [h, Utf8.decode_encode]
    · rw [h, Utf8.decode_encode_append]

/-- Bytes are read in the same way whether or not they can be changed. -/
theorem bytes_buffer_isReadAsUtf8 : IsReadAsUtf8 .bytes ∧ IsReadAsUtf8 .buffer :=
  ⟨isReadAsUtf8_of_toField fun _ => by rw [toField], isReadAsUtf8_of_toField fun _ => by rw [toField]⟩

/-- Three bytes of four, a surrogate and a byte that is never used, between two letters. -/
example : Utf8.decode [0x41, 0xF0, 0x9F, 0x98, 0xED, 0xA0, 0x80, 0xFF, 0x42] =
    "A\uFFFD\uFFFD\uFFFD\uFFFD\uFFFDB" := by decide

end Value

end SpanExport
