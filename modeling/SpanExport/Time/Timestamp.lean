import SpanExport.Time.Calendar

/-!
# Timestamps

A date and a time of day, with the distance from UTC where that is known, and the conversion of
nanoseconds since 1970. Nothing is rounded up: a timestamp names the microsecond that the
instant falls into.
-/

namespace SpanExport

/-- A date and a time of day. The offset is in seconds east of UTC. -/
structure Timestamp where
  date : Date
  hour : Nat
  minute : Nat
  second : Nat
  microsecond : Nat
  offset : Option Int
deriving DecidableEq

inductive TimestampError where
  | secondsTooLarge
  | yearTooLarge
  | yearOutOfRange (year : Int)
deriving DecidableEq

namespace TimestampError

def message : TimestampError → String
  | .secondsTooLarge => "timestamp out of range for platform time_t"
  | .yearTooLarge => "[Errno 75] Value too large for defined data type"
  | .yearOutOfRange year => "year " ++ toString year ++ " is out of range"

end TimestampError

namespace Timestamp

/-! ## Text -/

/-- Sign, hours and minutes, and the seconds if there are any. -/
def offsetText (seconds : Int) : String :=
  let n := seconds.natAbs
  (if seconds < 0 then "-" else "+") ++ Digits.decimalPadded 2 (n / 3600) ++ ":" ++
    Digits.decimalPadded 2 (n / 60 % 60) ++
    if n % 60 = 0 then "" else ":" ++ Digits.decimalPadded 2 (n % 60)

/-- The fraction of a second, of six digits, is left out where it is zero. -/
def fractionText (microsecond : Nat) : String :=
  if microsecond = 0 then "" else "." ++ Digits.decimalPadded 6 microsecond

def textWith (separator : String) (t : Timestamp) : String :=
  t.date.text ++ separator ++ Digits.decimalPadded 2 t.hour ++ ":" ++ Digits.decimalPadded 2 t.minute ++
    ":" ++ Digits.decimalPadded 2 t.second ++ fractionText t.microsecond ++
    (t.offset.map offsetText).getD ""

def text (t : Timestamp) : String := t.textWith "T"

/-! ## Instants -/

/-- Microseconds from 0001-01-01 to what the calendar and the clock show. -/
def shownMicroseconds (t : Timestamp) : Int :=
  ((Calendar.dayOfDate t.date * 24 + t.hour) * 3600 + t.minute * 60 + t.second) * 1000000 +
    t.microsecond

/-- Both name the same instant. Without an offset a timestamp is no instant, and is the same as
another one without an offset that shows the same. -/
def sameInstant (a b : Timestamp) : Bool :=
  match a.offset, b.offset with
  | none, none => a.shownMicroseconds == b.shownMicroseconds
  | some x, some y =>
    a.shownMicroseconds - x * 1000000 == b.shownMicroseconds - y * 1000000
  | _, _ => false

/-! ## Nanoseconds since 1970 -/

/-- The UTC timestamp of a second since 1970 and a microsecond in it. -/
def utc (second : Int) (microsecond : Nat) : Timestamp where
  date := Calendar.dateOfDay (Calendar.epochDay + second / 86400)
  hour := (second % 86400).toNat / 3600
  minute := (second % 86400).toNat / 60 % 60
  second := (second % 86400).toNat % 60
  microsecond := microsecond
  offset := some 0

def fitsSigned (bits : Nat) (n : Int) : Bool :=
  let half : Int := Nat.pow 2 (bits - 1)
  0 ≤ n + half && n < half

/-- Seconds must fit 64 bits, the year less 1900 must fit 32, and the year itself be one of
those that are written with four digits. A year beyond those is reported as its low 32 bits. -/
def check (second : Int) (t : Timestamp) : Except TimestampError Timestamp :=
  if !fitsSigned 64 second then .error .secondsTooLarge
  else if !fitsSigned 32 (t.date.year - 1900) then .error .yearTooLarge
  else if t.date.year < 1 ∨ 9999 < t.date.year then .error (.yearOutOfRange (t.date.year.bmod (Nat.pow 2 32)))
  else .ok t

/-- The timestamp of a number of nanoseconds; zero stands for a time that is not set. -/
def ofNanoseconds (ns : Option Int) : Except TimestampError (Option Timestamp) :=
  match ns with
  | none | some 0 => .ok none
  | some ns =>
    let second := ns / 1000000000
    some <$> check second (utc second (ns % 1000000000 / 1000).toNat)

end Timestamp

end SpanExport
