import SpanExport.Proofs.Time.Calendar
import SpanExport.Time.Timestamp

/-!
# Nanoseconds as timestamps

An instant of the years 1 to 9999 has a timestamp, which names the microsecond that the instant
falls into, before 1970 as well as after it. Every other instant is refused for the first of three
limits that it is beyond.
-/

namespace SpanExport

namespace Timestamp

/-- The date and the time of day exist, and they are those of UTC. -/
structure IsValid (t : Timestamp) : Prop where
  date : t.date.IsValid
  hour : t.hour < 24
  minute : t.minute < 60
  second : t.second < 60
  microsecond : t.microsecond < 1000000
  offset : t.offset = some 0

/-- The seconds from midnight. -/
def secondOfDay (t : Timestamp) : Nat := (t.hour * 60 + t.minute) * 60 + t.second

/-- The microseconds from 1970-01-01T00:00:00. -/
def elapsed (t : Timestamp) : Int :=
  (t.date.daysSince1970 * 86400 + t.secondOfDay) * 1000000 + t.microsecond

/-- The nanoseconds since 1970 of the years 1 to 9999. -/
def InRange (ns : Int) : Prop := -62135596800 * 10 ^ 9 ≤ ns ∧ ns < 253402300800 * 10 ^ 9

def FitsSigned (bits : Nat) (n : Int) : Prop := -2 ^ (bits - 1) ≤ n ∧ n < 2 ^ (bits - 1)

/-- Why an instant has no timestamp: its seconds need more than 64 bits, or else its year, less
1900, needs more than 32, or else its year is not one from 1 to 9999. -/
inductive IsBeyond (ns : Int) : TimestampError → Prop
  | seconds : ¬ FitsSigned 64 (ns / 10 ^ 9) → IsBeyond ns .secondsTooLarge
  | year {year : Int} : FitsSigned 64 (ns / 10 ^ 9) →
      Calendar.IsYearOf (ns / 10 ^ 9 / 86400) year → ¬ FitsSigned 32 (year - 1900) →
      IsBeyond ns .yearTooLarge
  | fourDigits {year : Int} : FitsSigned 64 (ns / 10 ^ 9) →
      Calendar.IsYearOf (ns / 10 ^ 9 / 86400) year → FitsSigned 32 (year - 1900) →
      year < 1 ∨ 9999 < year → IsBeyond ns (.yearOutOfRange (year.bmod (2 ^ 32)))

/-! ## Ranges -/

theorem fitsSigned_iff {bits : Nat} {n : Int} : fitsSigned bits n = true ↔ FitsSigned bits n := by
  unfold fitsSigned FitsSigned
  simp only [Nat.pow_eq, Bool.and_eq_true, decide_eq_true_eq]
  push_cast
  generalize (2 : Int) ^ (bits - 1) = half
  omega

theorem inRange_iff {ns year : Int} (h : Calendar.IsYearOf (ns / 10 ^ 9 / 86400) year) :
    InRange ns ↔ 1 ≤ year ∧ year ≤ 9999 := by
  have hfirst : Calendar.newYear 1 = -719162 := by rw [Calendar.newYear_eq]; rfl
  have hlast : Calendar.newYear 10000 = 2932897 := by rw [Calendar.newYear_eq]; rfl
  have hone := h.le_iff 1
  have hend := h.le_iff 10000
  rw [hfirst] at hone
  rw [hlast] at hend
  unfold InRange
  omega

theorem InRange.fitsSigned {ns : Int} (h : InRange ns) : FitsSigned 64 (ns / 10 ^ 9) := by
  unfold InRange at h
  unfold FitsSigned
  omega

theorem IsBeyond.not_inRange {ns : Int} {cause : TimestampError} (h : IsBeyond ns cause) :
    ¬ InRange ns := by
  cases h with
  | seconds hseconds => exact fun hrange => hseconds hrange.fitsSigned
  | year _ hyear hlarge =>
    rw [inRange_iff hyear]
    unfold FitsSigned at hlarge
    omega
  | fourDigits _ hyear _ hdigits =>
    rw [inRange_iff hyear]
    omega

theorem IsBeyond.unique {ns : Int} {cause other : TimestampError} (h : IsBeyond ns cause)
    (h' : IsBeyond ns other) : cause = other := by
  cases h with
  | seconds hseconds =>
    cases h' with
    | seconds => rfl
    | year hfits => exact absurd hfits hseconds
    | fourDigits hfits => exact absurd hfits hseconds
  | year hfits hyear hlarge =>
    cases h' with
    | seconds hseconds => exact absurd hfits hseconds
    | year => rfl
    | fourDigits _ hyear' hsmall => exact absurd (hyear.unique hyear' ▸ hsmall) hlarge
  | fourDigits hfits hyear hsmall =>
    cases h' with
    | seconds hseconds => exact absurd hfits hseconds
    | year _ hyear' hlarge => exact absurd (hyear'.unique hyear ▸ hsmall) hlarge
    | fourDigits _ hyear' => rw [hyear.unique hyear']

/-! ## Conversion -/

theorem utc_spec (second : Int) {microsecond : Nat} (h : microsecond < 1000000) :
    (utc second microsecond).IsValid ∧
      (utc second microsecond).elapsed = second * 1000000 + microsecond := by
  obtain ⟨hdate, hdays⟩ := Calendar.dateOfDay_spec (second / 86400)
  have hclock : ((second % 86400).toNat : Int) = second % 86400 := Int.toNat_of_nonneg (by omega)
  refine ⟨⟨hdate, ?_, ?_, ?_, h, rfl⟩, ?_⟩
  · change (second % 86400).toNat / 3600 < 24
    omega
  · exact Nat.mod_lt _ (by omega)
  · exact Nat.mod_lt _ (by omega)
  · unfold elapsed secondOfDay utc
    dsimp only
    rw [hdays]
    omega

theorem utc_isYearOf (second : Int) (microsecond : Nat) :
    Calendar.IsYearOf (second / 86400) (utc second microsecond).date.year := by
  obtain ⟨hdate, hdays⟩ := Calendar.dateOfDay_spec (second / 86400)
  have hyear := hdate.isYearOf
  rw [hdays] at hyear
  exact hyear

theorem ofNanoseconds_cases {ns : Int} (h : ns ≠ 0) :
    (∃ t, ofNanoseconds (some ns) = .ok (some t) ∧ InRange ns ∧ t.IsValid ∧
        t.elapsed = ns / 1000) ∨
      ∃ cause, ofNanoseconds (some ns) = .error cause ∧ IsBeyond ns cause := by
  have hmicro : (ns % 10 ^ 9 / 1000).toNat < 1000000 := by omega
  have hyear := utc_isYearOf (ns / 10 ^ 9) (ns % 10 ^ 9 / 1000).toNat
  obtain ⟨hvalid, helapsed⟩ := utc_spec (ns / 10 ^ 9) hmicro
  have hconvert : ofNanoseconds (some ns) =
      some <$> check (ns / 10 ^ 9) (utc (ns / 10 ^ 9) (ns % 10 ^ 9 / 1000).toNat) := by
    unfold ofNanoseconds
    split
    · contradiction
    · rename_i heq
      exact absurd (Option.some.inj heq) h
    · rename_i heq
      cases heq
      rfl
  rw [hconvert]
  generalize utc (ns / 10 ^ 9) (ns % 10 ^ 9 / 1000).toNat = t at *
  unfold check
  by_cases hseconds : FitsSigned 64 (ns / 10 ^ 9)
  · rw [fitsSigned_iff.2 hseconds]
    by_cases hfits : FitsSigned 32 (t.date.year - 1900)
    · rw [fitsSigned_iff.2 hfits]
      by_cases hdigits : t.date.year < 1 ∨ 9999 < t.date.year
      · rw [if_pos hdigits]
        exact .inr ⟨_, rfl, .fourDigits hseconds hyear hfits hdigits⟩
      · rw [if_neg hdigits]
        refine .inl ⟨t, rfl, ?_, hvalid, by omega⟩
        rw [inRange_iff hyear]
        omega
    · rw [Bool.eq_false_iff.2 (mt fitsSigned_iff.1 hfits)]
      exact .inr ⟨_, rfl, .year hseconds hyear hfits⟩
  · rw [Bool.eq_false_iff.2 (mt fitsSigned_iff.1 hseconds)]
    exact .inr ⟨_, rfl, .seconds hseconds⟩

theorem exists_ofNanoseconds {ns : Int} (h : ns ≠ 0) (hrange : InRange ns) :
    ∃ t, ofNanoseconds (some ns) = .ok (some t) := by
  rcases ofNanoseconds_cases h with ⟨t, hok, -⟩ | ⟨cause, -, hbeyond⟩
  · exact ⟨t, hok⟩
  · exact absurd hrange hbeyond.not_inRange

theorem ofNanoseconds_eq_error_iff {time : Option Int} {cause : TimestampError} :
    ofNanoseconds time = .error cause ↔ ∃ ns, time = some ns ∧ ns ≠ 0 ∧ IsBeyond ns cause := by
  cases time with
  | none => simp [ofNanoseconds]
  | some ns =>
    by_cases hzero : ns = 0
    · simp [ofNanoseconds, hzero]
    · rcases ofNanoseconds_cases hzero with ⟨t, hok, hrange, -⟩ | ⟨other, herror, hbeyond⟩
      · rw [hok]
        refine iff_of_false (by simp) ?_
        rintro ⟨_, ⟨⟩, -, hbeyond⟩
        exact hbeyond.not_inRange hrange
      · rw [herror]
        constructor
        · rintro ⟨⟩
          exact ⟨ns, rfl, hzero, hbeyond⟩
        · rintro ⟨_, ⟨⟩, -, hcause⟩
          rw [hbeyond.unique hcause]

/-- An instant that is set has a timestamp just when it is in range. The timestamp is one of the
calendar and of the clock, and the microseconds counted to it are those of the instant, rounded
down. An instant out of range is refused, for the first limit that it is beyond. -/
theorem ofNanoseconds_floors {ns : Int} (h : ns ≠ 0) :
    ((∃ t, ofNanoseconds (some ns) = .ok (some t)) ↔ InRange ns) ∧
    (∀ t, ofNanoseconds (some ns) = .ok (some t) → t.IsValid ∧ t.elapsed = ns / 1000) ∧
    (∀ cause, ofNanoseconds (some ns) = .error cause ↔ IsBeyond ns cause) ∧
    (¬ InRange ns → ∃ cause, ofNanoseconds (some ns) = .error cause) := by
  rcases ofNanoseconds_cases h with ⟨t, hok, hrange, hvalid, helapsed⟩ | ⟨cause, herror, hbeyond⟩
  · rw [hok]
    refine ⟨iff_of_true ⟨t, rfl⟩ hrange, ?_, fun cause => ?_, fun hno => absurd hrange hno⟩
    · rintro _ ⟨⟩
      exact ⟨hvalid, helapsed⟩
    · exact iff_of_false (by simp) fun hbeyond => hbeyond.not_inRange hrange
  · rw [herror]
    refine ⟨iff_of_false (by simp) hbeyond.not_inRange, by simp, fun other => ?_,
      fun _ => ⟨cause, rfl⟩⟩
    constructor
    · rintro ⟨⟩
      exact hbeyond
    · intro hother
      rw [hbeyond.unique hother]

/-- The last microsecond before 1970 begins less than a microsecond before it, and the nanosecond
before the year 1 lies in a year that is not written. -/
theorem ofNanoseconds_lastBefore :
    (-1 : Int) ≠ 0 ∧ (-62135596800 * 10 ^ 9 - 1 : Int) ≠ 0 ∧
    (∃ t, ofNanoseconds (some (-1)) = .ok (some t) ∧ t.IsValid ∧ t.elapsed = -1 ∧
      t.text = "1969-12-31T23:59:59.999999+00:00") ∧
    ∃ cause, ofNanoseconds (some (-62135596800 * 10 ^ 9 - 1)) = .error cause ∧
      IsBeyond (-62135596800 * 10 ^ 9 - 1) cause := by
  have hset : (-1 : Int) ≠ 0 := by decide
  have hfar : (-62135596800 * 10 ^ 9 - 1 : Int) ≠ 0 := by decide
  obtain ⟨-, hexact, -, -⟩ := ofNanoseconds_floors hset
  obtain ⟨-, -, hbeyond, hrefused⟩ := ofNanoseconds_floors hfar
  have hok : ofNanoseconds (some (-1)) = .ok (some (utc (-1) 999999)) := by decide +kernel
  obtain ⟨hvalid, helapsed⟩ := hexact _ hok
  obtain ⟨cause, hcause⟩ := hrefused (by unfold InRange; omega)
  exact ⟨hset, hfar, ⟨_, hok, hvalid, helapsed, by decide +kernel⟩, cause, hcause,
    (hbeyond cause).1 hcause⟩

end Timestamp

end SpanExport
