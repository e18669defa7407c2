import SpanExport.Proofs.Number.Padded
import SpanExport.Proofs.Time.Conversion

/-!
# Timestamps in order

The text of a timestamp has its parts from the year down to the microsecond, each of a fixed
width, so texts are ordered as the instants are. A fraction that is left out comes before all that
are written, since the plus sign comes before the point.
-/

namespace SpanExport

namespace Timestamp

variable {a b : Timestamp}

/-! ## Parts in order -/

theorem IsValid.elapsed_lt_iff (ha : a.IsValid) (hb : b.IsValid) :
    a.elapsed < b.elapsed ↔
      a.date.daysSince1970 < b.date.daysSince1970 ∨ a.date.daysSince1970 = b.date.daysSince1970 ∧
        (a.hour < b.hour ∨ a.hour = b.hour ∧ (a.minute < b.minute ∨ a.minute = b.minute ∧
          (a.second < b.second ∨ a.second = b.second ∧ a.microsecond < b.microsecond))) := by
  have hclock : a.secondOfDay < 86400 ∧ b.secondOfDay < 86400 := by
    have := ha.hour; have := ha.minute; have := ha.second
    have := hb.hour; have := hb.minute; have := hb.second
    unfold secondOfDay
    omega
  have hseconds : a.elapsed < b.elapsed ↔
      a.date.daysSince1970 < b.date.daysSince1970 ∨ a.date.daysSince1970 = b.date.daysSince1970 ∧
        (a.secondOfDay < b.secondOfDay ∨
          a.secondOfDay = b.secondOfDay ∧ a.microsecond < b.microsecond) := by
    have := ha.microsecond
    have := hb.microsecond
    unfold elapsed
    omega
  have hparts : a.secondOfDay < b.secondOfDay ↔ a.hour < b.hour ∨ a.hour = b.hour ∧
      (a.minute < b.minute ∨ a.minute = b.minute ∧ a.second < b.second) := by
    have := ha.minute; have := ha.second
    have := hb.minute; have := hb.second
    unfold secondOfDay
    omega
  have hsame : a.secondOfDay = b.secondOfDay ↔
      a.hour = b.hour ∧ a.minute = b.minute ∧ a.second = b.second := by
    have := ha.minute; have := ha.second
    have := hb.minute; have := hb.second
    unfold secondOfDay
    omega
  rw [hseconds, hparts, hsame]
  simp only [and_or_left, or_assoc, and_assoc]

/-! ## Text -/

/-- What follows the seconds: the fraction, unless it is zero, and the distance from UTC. -/
def ending (microsecond : Nat) : List Char := (fractionText microsecond).toList ++ "+00:00".toList

theorem toList_text {t : Timestamp} (h : t.IsValid) :
    t.text.toList = Digits.padded 4 10 t.date.year.toNat ++ '-' ::
      (Digits.padded 2 10 t.date.month ++ '-' :: (Digits.padded 2 10 t.date.day ++ 'T' ::
        (Digits.padded 2 10 t.hour ++ ':' :: (Digits.padded 2 10 t.minute ++ ':' ::
          (Digits.padded 2 10 t.second ++ ending t.microsecond))))) := by
  unfold text textWith Date.text ending
  rw [h.offset]
  have hzone : (Option.map offsetText (some 0)).getD "" = "+00:00" := by decide +kernel
  rw [hzone]
  simp only [Digits.decimalPadded, String.toList_append, String.toList_ofList, List.append_assoc]
  rfl

theorem ending_zero : ending 0 = ['+', '0', '0', ':', '0', '0'] := by decide +kernel

theorem ending_of_ne_zero {microsecond : Nat} (h : microsecond ≠ 0) :
    ending microsecond = '.' :: (Digits.padded 6 10 microsecond ++ ending 0) := by
  unfold ending fractionText
  rw [if_neg h]
  simp [Digits.decimalPadded]

theorem ending_lt_iff {m n : Nat} (hm : m < 1000000) (hn : n < 1000000) :
    ending m < ending n ↔ m < n := by
  have hsign : '+' < '.' := by decide
  by_cases hzero : m = 0 <;> by_cases hzero' : n = 0
  · rw [hzero, hzero']
    exact iff_of_false (lt_irrefl _) (lt_irrefl _)
  · rw [hzero, ending_of_ne_zero hzero', ending_zero, List.cons_lt_cons_iff]
    exact iff_of_true (.inl hsign) (Nat.pos_of_ne_zero hzero')
  · rw [hzero', ending_of_ne_zero hzero, ending_zero, List.cons_lt_cons_iff]
    refine iff_of_false ?_ (Nat.not_lt_zero m)
    rintro (hback | ⟨hsame, -⟩)
    · exact lt_asymm hback hsign
    · exact absurd hsame (by decide)
  · rw [ending_of_ne_zero hzero, ending_of_ne_zero hzero', List.cons_lt_cons_iff,
      Digits.padded_append_lt_iff (by omega) (by omega) (by omega) hm hn]
    simp

/-- The parts have as many digits as they are written with. -/
structure IsNarrow (t : Timestamp) : Prop where
  year : t.date.year.toNat < 10 ^ 4
  month : t.date.month < 10 ^ 2
  day : t.date.day < 10 ^ 2
  hour : t.hour < 10 ^ 2
  minute : t.minute < 10 ^ 2
  second : t.second < 10 ^ 2

theorem IsValid.isNarrow {t : Timestamp} (h : t.IsValid) (hyear : t.date.year ≤ 9999) :
    t.IsNarrow := by
  have hmonth := h.date.month
  have hday := h.date.day.2.trans (Calendar.monthLength_le _ _)
  have hhour := h.hour
  have hminute := h.minute
  have hsecond := h.second
  constructor <;> omega

theorem IsValid.text_lt_iff (ha : a.IsValid) (hb : b.IsValid)
    (hayear : 1 ≤ a.date.year ∧ a.date.year ≤ 9999)
    (hbyear : 1 ≤ b.date.year ∧ b.date.year ≤ 9999) :
    a.text < b.text ↔ a.elapsed < b.elapsed := by
  have hafit := ha.isNarrow hayear.2
  have hbfit := hb.isNarrow hbyear.2
  have hpart : ∀ {width m n : Nat} {c : Char} {us vs : List Char}, width ≠ 0 → m < 10 ^ width →
      n < 10 ^ width →
      (Digits.padded width 10 m ++ c :: us < Digits.padded width 10 n ++ c :: vs ↔
        m < n ∨ m = n ∧ us < vs) := by
    intro width m n c us vs hwidth hm hn
    rw [Digits.padded_append_lt_iff (by omega) (by omega) hwidth hm hn, List.cons_lt_cons_self]
  rw [String.lt_iff_toList_lt, toList_text ha, toList_text hb,
    hpart (by omega) hafit.year hbfit.year, hpart (by omega) hafit.month hbfit.month,
    hpart (by omega) hafit.day hbfit.day, hpart (by omega) hafit.hour hbfit.hour,
    hpart (by omega) hafit.minute hbfit.minute,
    Digits.padded_append_lt_iff (by omega) (by omega) (by omega) hafit.second hbfit.second,
    ending_lt_iff ha.microsecond hb.microsecond, ha.elapsed_lt_iff hb, ha.date.days_lt_iff hb.date,
    ha.date.days_eq_iff hb.date, Date.Precedes]
  have hless : a.date.year.toNat < b.date.year.toNat ↔ a.date.year < b.date.year := by omega
  have hsame : a.date.year.toNat = b.date.year.toNat ↔ a.date.year = b.date.year := by omega
  rw [hless, hsame]
  simp only [and_or_left, or_assoc, and_assoc]

theorem IsValid.length_text {t : Timestamp} (h : t.IsValid) (hyear : t.date.year ≤ 9999) :
    t.text.length = if t.microsecond = 0 then 25 else 32 := by
  have hfit := h.isNarrow hyear
  have hlength : ∀ {width n : Nat}, width ≠ 0 → n < 10 ^ width →
      (Digits.padded width 10 n).length = width := fun hwidth hn =>
    Digits.length_padded (by omega) hwidth hn
  have hending : (ending t.microsecond).length = if t.microsecond = 0 then 6 else 13 := by
    split
    · rename_i hzero
      rw [hzero, ending_zero]
      rfl
    · rename_i hset
      rw [ending_of_ne_zero hset, ending_zero, List.length_cons, List.length_append,
        hlength (by omega) h.microsecond]
      rfl
  rw [← String.length_toList, toList_text h]
  simp only [List.length_append, List.length_cons, hending, hlength (by omega) hfit.year,
    hlength (by omega) hfit.month, hlength (by omega) hfit.day, hlength (by omega) hfit.hour,
    hlength (by omega) hfit.minute, hlength (by omega) hfit.second]
  split <;> rfl

/-! ## Timestamps of instants -/

/-- What an instant in range comes to: a timestamp of the years 1 to 9999 that counts its
microseconds. -/
structure IsOf (t : Timestamp) (ns : Int) : Prop where
  valid : t.IsValid
  year : 1 ≤ t.date.year ∧ t.date.year ≤ 9999
  elapsed : t.elapsed = ns / 1000

theorem ofNanoseconds_isOf {ns : Int} (h : ns ≠ 0) {t : Timestamp}
    (ht : ofNanoseconds (some ns) = .ok (some t)) : t.IsOf ns := by
  rcases ofNanoseconds_cases h with ⟨t', hok, hrange, hvalid, helapsed⟩ | ⟨cause, herror, -⟩
  · rw [ht] at hok
    cases hok
    have hday : t.date.daysSince1970 = ns / 10 ^ 9 / 86400 := by
      have := hvalid.hour; have := hvalid.minute; have := hvalid.second
      have := hvalid.microsecond
      unfold elapsed secondOfDay at helapsed
      omega
    have hyear := hvalid.date.isYearOf
    rw [hday] at hyear
    exact ⟨hvalid, (inRange_iff hyear).1 hrange, helapsed⟩
  · rw [ht] at herror
    cases herror

theorem IsOf.microsecond {t : Timestamp} {ns : Int} (h : t.IsOf ns) :
    t.microsecond = 0 ↔ ns / 1000 % 1000000 = 0 := by
  have helapsed := h.elapsed
  have hmicro := h.valid.microsecond
  unfold Timestamp.elapsed at helapsed
  omega

end Timestamp

end SpanExport
