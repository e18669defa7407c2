import SpanExport.Number.Digits

/-!
# The Gregorian calendar

Dates of the calendar extended backwards without end, from the number of days since
0001-01-01 and back. A year is found by taking off whole cycles of 400, 100, 4 and 1 years, a
month by taking off the months before it.
-/

namespace SpanExport

/-- A date; the year zero is the one before the year one. -/
structure Date where
  year : Int
  month : Nat
  day : Nat
deriving DecidableEq

namespace Calendar

def isLeap (year : Int) : Bool := year % 4 = 0 ∧ (year % 100 ≠ 0 ∨ year % 400 = 0)

def monthLengths (leap : Bool) : List Nat :=
  [31, if leap then 29 else 28, 31, 30, 31, 30, 31, 31, 30, 31, 30, 31]

/-- The month and the day of the month for the `n`-th day, from zero, of consecutive months
with these lengths. -/
def splitMonths : List Nat → Nat → Nat × Nat
  | [], n => (1, n + 1)
  | length :: rest, n =>
    if n < length then (1, n + 1)
    else ((splitMonths rest (n - length)).1 + 1, (splitMonths rest (n - length)).2)

/-- The year and the day in it, from zero, for a day counted from 0001-01-01. -/
def yearAndDay (days : Int) : Int × Nat :=
  let in400 := (days % 146097).toNat
  let centuries := min (in400 / 36524) 3
  let in100 := in400 - centuries * 36524
  let in4 := in100 % 1461
  let years := min (in4 / 365) 3
  (days / 146097 * 400 + centuries * 100 + in100 / 1461 * 4 + years + 1, in4 - years * 365)

/-- The date of a day counted from 0001-01-01. -/
def dateOfDay (days : Int) : Date :=
  let (year, n) := yearAndDay days
  let (month, day) := splitMonths (monthLengths (isLeap year)) n
  ⟨year, month, day⟩

/-- The days before the first of January. -/
def daysBeforeYear (year : Int) : Int :=
  let before := year - 1
  before * 365 + before / 4 - before / 100 + before / 400

/-- The days of the first `n` of consecutive months with these lengths. -/
def daysBeforeMonth : List Nat → Nat → Nat
  | length :: rest, n + 1 => length + daysBeforeMonth rest n
  | _, _ => 0

/-- The day of a date, counted from 0001-01-01. -/
def dayOfDate (d : Date) : Int :=
  daysBeforeYear d.year + daysBeforeMonth (monthLengths (isLeap d.year)) (d.month - 1) + d.day - 1

/-- 1970-01-01 counted from 0001-01-01. -/
def epochDay : Int := 719162

end Calendar

/-- Four digits of the year, two of the month and two of the day. -/
def Date.text (d : Date) : String :=
  Digits.decimalPadded 4 d.year.toNat ++ "-" ++ Digits.decimalPadded 2 d.month ++ "-" ++
    Digits.decimalPadded 2 d.day

end SpanExport
