import SqlWire.Calendar.Date

/-!
# Times and timestamps

A time of day is a number of microseconds since midnight, and a timestamp is a date with a time. An
instant is counted in microseconds from the start of 1970. It is split into whole seconds and what
is left of a second, and the seconds into whole days, which give the date, and what is left of a
day.
-/

namespace SqlWire

/-- Microseconds of a second. -/
def microsecondsPerSecond : Nat := 1000000

/-- Seconds of a day. -/
def secondsPerDay : Nat := 86400

/-- Microseconds of a day. -/
def microsecondsPerDay : Nat := 86400000000

/-- A time of day. -/
structure TimeOfDay where
  /-- Microseconds since midnight. -/
  microseconds : Nat
  deriving DecidableEq

namespace TimeOfDay

/-- The time that is so many whole seconds and microseconds past midnight, if that is on the same
day and the microseconds make no second of their own. -/
def ofSeconds? (seconds microseconds : Nat) : Option TimeOfDay :=
  if seconds < secondsPerDay ∧ microseconds < microsecondsPerSecond then
    some ⟨microsecondsPerSecond * seconds + microseconds⟩
  else none

/-- The fraction of a second: nothing, three digits if they are exact, or six. -/
def fractionText (microseconds : Nat) : String :=
  if microseconds = 0 then ""
  else if microseconds % 1000 = 0 then "." ++ Text.zeroPadded 3 (microseconds / 1000)
  else "." ++ Text.zeroPadded 6 microseconds

/-- Hours, minutes and seconds with colons between them, and the fraction. -/
def text (time : TimeOfDay) : String :=
  let seconds := time.microseconds / 1000000
  Text.zeroPadded 2 (seconds / 3600) ++ ":" ++ Text.zeroPadded 2 (seconds / 60 % 60) ++ ":" ++
    Text.zeroPadded 2 (seconds % 60) ++ fractionText (time.microseconds % 1000000)

end TimeOfDay

/-- A date and a time. -/
structure Timestamp where
  date : Date
  time : TimeOfDay
  deriving DecidableEq

namespace Timestamp

/-- The timestamp of an instant, within the calendar. -/
def ofMicroseconds? (microseconds : Int) : Option Timestamp := do
  let seconds := microseconds / microsecondsPerSecond
  let date ← Date.ofDay? (seconds / secondsPerDay)
  let time ← TimeOfDay.ofSeconds? (seconds % secondsPerDay).toNat
    (microseconds % microsecondsPerSecond).toNat
  return ⟨date, time⟩

/-- The date and the time with a blank between them. -/
def text (timestamp : Timestamp) : String :=
  timestamp.date.text ++ " " ++ timestamp.time.text

end Timestamp

end SqlWire
