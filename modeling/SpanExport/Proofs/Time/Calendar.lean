import Mathlib.Algebra.BigOperators.Intervals
import Mathlib.Algebra.Order.Group.Int
import Mathlib.Order.SuccPred.IntervalSucc
import SpanExport.Time.Calendar

/-!
# Counting days

The days of the calendar are counted year by year and month by month, from 1970-01-01 on and back.
The date that is worked out for a day is one that exists, and it is that many days away. Later
dates have later days.
-/

namespace SpanExport

namespace Calendar

/-! ## Years and months -/

def yearLength (year : Int) : Nat := if isLeap year then 366 else 365

def monthLength (leap : Bool) : Nat → Nat
  | 2 => if leap then 29 else 28
  | 4 | 6 | 9 | 11 => 30
  | _ => 31

/-- The days from 1970-01-01 to the first of January: the lengths of all years in between, which
count backwards for the years before. -/
def newYear (year : Int) : Int :=
  ∑ k ∈ Finset.range (year - 1970).toNat, (yearLength (1970 + k) : Int) -
    ∑ k ∈ Finset.range (1970 - year).toNat, (yearLength (1969 - k) : Int)

/-- The days from the first of January to the first of the month after `months` months. -/
def monthStart (leap : Bool) (months : Nat) : Nat :=
  ∑ m ∈ Finset.range months, monthLength leap (m + 1)

/-- The day, counted from 1970-01-01, lies in the year. -/
def IsYearOf (day year : Int) : Prop := newYear year ≤ day ∧ day < newYear (year + 1)

theorem newYear_succ (year : Int) : newYear (year + 1) = newYear year + yearLength year := by
  unfold newYear
  by_cases hyear : 1970 ≤ year
  · have hnone : (1970 - year).toNat = 0 ∧ (1970 - (year + 1)).toNat = 0 := by omega
    have hnext : (year + 1 - 1970).toNat = (year - 1970).toNat + 1 := by omega
    have hlast : 1970 + ((year - 1970).toNat : Int) = year := by omega
    rw [hnone.1, hnone.2, hnext, Finset.sum_range_succ, hlast]
    simp
  · have hnone : (year - 1970).toNat = 0 ∧ (year + 1 - 1970).toNat = 0 := by omega
    have hnext : (1970 - year).toNat = (1970 - (year + 1)).toNat + 1 := by omega
    have hlast : 1969 - ((1970 - (year + 1)).toNat : Int) = year := by omega
    rw [hnone.1, hnone.2, hnext, Finset.sum_range_succ, hlast]
    simp

theorem newYear_mono {year other : Int} (h : year ≤ other) : newYear year ≤ newYear other := by
  refine monotone_int_of_le_succ (fun year => ?_) h
  rw [newYear_succ]
  omega

theorem daysBeforeYear_succ (year : Int) :
    daysBeforeYear (year + 1) = daysBeforeYear year + yearLength year := by
  unfold daysBeforeYear yearLength isLeap
  simp only [decide_eq_true_eq]
  split <;> omega

/-- Counting year by year comes to the same as counting leap years. -/
theorem newYear_eq (year : Int) : newYear year = daysBeforeYear year - epochDay := by
  induction year using Int.inductionOn' (b := 1970) with
  | zero => rfl
  | succ year _ ih => rw [newYear_succ, daysBeforeYear_succ, ih]; omega
  | pred year _ ih =>
    have hcount := newYear_succ (year - 1)
    have hdays := daysBeforeYear_succ (year - 1)
    rw [Int.sub_add_cancel] at hcount hdays
    omega

/-! ## The year of a day -/

section Cycles

variable {q : Int} {c k r : Nat}

theorem daysBeforeYear_cycles (hc : c ≤ 3) (hk : k ≤ 24) (hr : r ≤ 3) :
    daysBeforeYear (q * 400 + c * 100 + k * 4 + r + 1) =
      q * 146097 + c * 36524 + k * 1461 + r * 365 := by
  have hfours : (q * 400 + c * 100 + k * 4 + r + 1 - 1) / 4 = q * 100 + c * 25 + k := by omega
  have hcenturies : (q * 400 + c * 100 + k * 4 + r + 1 - 1) / 100 = q * 4 + c := by omega
  have hcycles : (q * 400 + c * 100 + k * 4 + r + 1 - 1) / 400 = q := by omega
  unfold daysBeforeYear
  simp only [hfours, hcenturies, hcycles]
  omega

theorem isLeap_cycles (hc : c ≤ 3) (hk : k ≤ 24) (hr : r ≤ 3) :
    isLeap (q * 400 + c * 100 + k * 4 + r + 1) = true ↔ r = 3 ∧ (k < 24 ∨ c = 3) := by
  unfold isLeap
  rw [decide_eq_true_eq]
  omega

theorem yearAndDay_cycles (days : Int) : ∃ (q : Int) (c k r n : Nat),
    yearAndDay days = (q * 400 + c * 100 + k * 4 + r + 1, n) ∧
      days = q * 146097 + c * 36524 + k * 1461 + r * 365 + n ∧
      c ≤ 3 ∧ k ≤ 24 ∧ r ≤ 3 ∧ n ≤ 365 ∧ (n = 365 → r = 3 ∧ (k < 24 ∨ c = 3)) := by
  unfold yearAndDay
  dsimp only
  generalize h400 : (days % 146097).toNat = in400
  generalize hc : min (in400 / 36524) 3 = c
  generalize h100 : in400 - c * 36524 = in100
  generalize hr : min (in100 % 1461 / 365) 3 = r
  -- The last century of a cycle, and the last year of four, may be a day longer.
  have hcentury : in400 = c * 36524 + in100 ∧ c ≤ 3 ∧ (in100 < 36524 ∨ c = 3 ∧ in100 = 36524) := by
    omega
  refine ⟨_, c, in100 / 1461, r, _, by push_cast; rfl, ?_, hcentury.2.1, ?_⟩ <;> omega

end Cycles

theorem yearAndDay_spec (days : Int) :
    daysBeforeYear (yearAndDay days).1 + (yearAndDay days).2 = days ∧
      (yearAndDay days).2 < yearLength (yearAndDay days).1 := by
  obtain ⟨q, c, k, r, n, hyear, hdays, hc, hk, hr, hn, hlast⟩ := yearAndDay_cycles days
  rw [hyear]
  refine ⟨by rw [daysBeforeYear_cycles hc hk hr, hdays], ?_⟩
  unfold yearLength
  split
  · omega
  · rename_i hshort
    rw [isLeap_cycles hc hk hr] at hshort
    omega

/-! ## The month of a day -/

theorem splitMonths_spec {lengths : List Nat} {n : Nat}
    (h : n < daysBeforeMonth lengths lengths.length) :
    ∃ m length day, splitMonths lengths n = (m + 1, day + 1) ∧ lengths[m]? = some length ∧
      day < length ∧ daysBeforeMonth lengths m + day = n := by
  induction lengths generalizing n with
  | nil => simp [daysBeforeMonth] at h
  | cons first rest ih =>
    rw [splitMonths]
    by_cases hfirst : n < first
    · exact ⟨0, first, n, if_pos hfirst, rfl, hfirst, Nat.zero_add n⟩
    · have hrest : n - first < daysBeforeMonth rest rest.length := by
        rw [List.length_cons, daysBeforeMonth] at h
        omega
      obtain ⟨m, length, day, hsplit, hlength, hday, hstart⟩ := ih hrest
      refine ⟨m + 1, length, day, ?_, by rwa [List.getElem?_cons_succ], hday, ?_⟩
      · rw [if_neg hfirst, hsplit]
      · rw [daysBeforeMonth]
        omega

theorem daysBeforeMonth_eq : ∀ leap : Bool, ∀ m ≤ 12,
    daysBeforeMonth (monthLengths leap) m = monthStart leap m := by
  decide

theorem monthLengths_getElem? : ∀ leap : Bool, ∀ m < 12,
    (monthLengths leap)[m]? = some (monthLength leap (m + 1)) := by
  decide

theorem monthLength_le (leap : Bool) (m : Nat) : monthLength leap m ≤ 31 := by
  unfold monthLength
  split
  · split <;> omega
  all_goals omega

theorem monthStart_twelve (year : Int) : monthStart (isLeap year) 12 = yearLength year := by
  unfold yearLength
  cases isLeap year <;> rfl

theorem monthStart_succ (leap : Bool) (m : Nat) :
    monthStart leap (m + 1) = monthStart leap m + monthLength leap (m + 1) :=
  Finset.sum_range_succ _ _

theorem monthStart_mono (leap : Bool) : Monotone (monthStart leap) :=
  monotone_nat_of_le_succ fun m => (monthStart_succ leap m).symm ▸ Nat.le_add_right _ _

end Calendar

/-! ## Dates -/

namespace Date

/-- The month is one of the year and the day one of the month. -/
structure IsValid (d : Date) : Prop where
  month : 1 ≤ d.month ∧ d.month ≤ 12
  day : 1 ≤ d.day ∧ d.day ≤ Calendar.monthLength (Calendar.isLeap d.year) d.month

/-- The days from the first of January. -/
def dayOfYear (d : Date) : Nat :=
  Calendar.monthStart (Calendar.isLeap d.year) (d.month - 1) + (d.day - 1)

/-- The days from 1970-01-01. -/
def daysSince1970 (d : Date) : Int := Calendar.newYear d.year + d.dayOfYear

theorem IsValid.dayOfYear_lt_monthStart {d : Date} (h : d.IsValid) :
    d.dayOfYear < Calendar.monthStart (Calendar.isLeap d.year) d.month := by
  have hmonth : d.month - 1 + 1 = d.month := Nat.sub_add_cancel h.month.1
  have hnext := Calendar.monthStart_succ (Calendar.isLeap d.year) (d.month - 1)
  rw [hmonth] at hnext
  have hday := h.day
  unfold dayOfYear
  omega

theorem IsValid.dayOfYear_lt {d : Date} (h : d.IsValid) :
    d.dayOfYear < Calendar.yearLength d.year := by
  rw [← Calendar.monthStart_twelve]
  exact h.dayOfYear_lt_monthStart.trans_le (Calendar.monthStart_mono _ h.month.2)

theorem IsValid.isYearOf {d : Date} (h : d.IsValid) : Calendar.IsYearOf d.daysSince1970 d.year := by
  have hlt := h.dayOfYear_lt
  unfold Calendar.IsYearOf daysSince1970
  rw [Calendar.newYear_succ]
  omega

end Date

namespace Calendar

theorem dateOfDay_spec (day : Int) :
    (dateOfDay (epochDay + day)).IsValid ∧ (dateOfDay (epochDay + day)).daysSince1970 = day := by
  obtain ⟨hyear, hn⟩ := yearAndDay_spec (epochDay + day)
  unfold dateOfDay
  generalize yearAndDay (epochDay + day) = found at *
  obtain ⟨year, n⟩ := found
  dsimp only at hyear hn ⊢
  have hwithin :
      n < daysBeforeMonth (monthLengths (isLeap year)) (monthLengths (isLeap year)).length := by
    have hlength : (monthLengths (isLeap year)).length = 12 := rfl
    rwa [hlength, daysBeforeMonth_eq _ 12 (Nat.le_refl _), monthStart_twelve]
  obtain ⟨m, length, d, hsplit, hlength, hd, hstart⟩ := splitMonths_spec hwithin
  have hm : m < 12 := (List.getElem?_eq_some_iff.1 hlength).1
  rw [monthLengths_getElem? _ m hm] at hlength
  obtain rfl := Option.some.inj hlength
  rw [daysBeforeMonth_eq _ m (by omega)] at hstart
  rw [hsplit]
  refine ⟨⟨⟨Nat.le_add_left 1 m, hm⟩, Nat.le_add_left 1 d, hd⟩, ?_⟩
  unfold Date.daysSince1970 Date.dayOfYear
  rw [newYear_eq]
  simp only [Nat.add_sub_cancel]
  omega

/-! ## Days in order -/

theorem IsYearOf.le_iff {day year : Int} (h : IsYearOf day year) (other : Int) :
    other ≤ year ↔ newYear other ≤ day := by
  constructor
  · intro hle
    exact (newYear_mono hle).trans h.1
  · intro hday
    by_contra hlt
    have hnext : newYear (year + 1) ≤ newYear other := newYear_mono (by omega)
    exact absurd (h.2.trans_le hnext) (by omega)

theorem IsYearOf.unique {day year other : Int} (h : IsYearOf day year) (h' : IsYearOf day other) :
    year = other :=
  le_antisymm ((h'.le_iff year).2 h.1) ((h.le_iff other).2 h'.1)

end Calendar

namespace Date

variable {a b : Date}

/-- Year, month and day are compared in this order. -/
def Precedes (a b : Date) : Prop :=
  a.year < b.year ∨ a.year = b.year ∧ (a.month < b.month ∨ a.month = b.month ∧ a.day < b.day)

theorem IsValid.days_lt_of_precedes (ha : a.IsValid) (hb : b.IsValid) (h : a.Precedes b) :
    a.daysSince1970 < b.daysSince1970 := by
  rcases h with hyear | ⟨hyear, hlater⟩
  · calc a.daysSince1970 < Calendar.newYear (a.year + 1) := ha.isYearOf.2
      _ ≤ Calendar.newYear b.year := Calendar.newYear_mono hyear
      _ ≤ b.daysSince1970 := hb.isYearOf.1
  · have hdays : a.dayOfYear < b.dayOfYear := by
      rcases hlater with hmonth | ⟨hmonth, hday⟩
      · have hstart : Calendar.monthStart (Calendar.isLeap b.year) a.month ≤
            Calendar.monthStart (Calendar.isLeap b.year) (b.month - 1) :=
          Calendar.monthStart_mono _ (by omega)
        have hlast := ha.dayOfYear_lt_monthStart
        rw [hyear] at hlast
        exact hlast.trans_le (hstart.trans (Nat.le_add_right _ _))
      · have hfirst := ha.day.1
        unfold dayOfYear
        rw [hyear, hmonth]
        omega
    unfold daysSince1970
    rw [hyear]
    omega

theorem IsValid.days_lt_iff (ha : a.IsValid) (hb : b.IsValid) :
    a.daysSince1970 < b.daysSince1970 ↔ a.Precedes b := by
  refine ⟨fun hlt => ?_, ha.days_lt_of_precedes hb⟩
  by_contra hno
  -- Otherwise both are the same date or the other one comes first.
  have hback : ¬ b.Precedes a := fun h => lt_asymm hlt (hb.days_lt_of_precedes ha h)
  have hsame : a.year = b.year ∧ a.month = b.month ∧ a.day = b.day := by
    unfold Precedes at hno hback
    omega
  unfold daysSince1970 dayOfYear at hlt
  rw [hsame.1, hsame.2.1, hsame.2.2] at hlt
  exact lt_irrefl _ hlt

theorem IsValid.days_eq_iff (ha : a.IsValid) (hb : b.IsValid) :
    a.daysSince1970 = b.daysSince1970 ↔
      a.year = b.year ∧ a.month = b.month ∧ a.day = b.day := by
  have hless := ha.days_lt_iff hb
  have hmore := hb.days_lt_iff ha
  unfold Precedes at hless hmore
  omega

end Date

end SpanExport
