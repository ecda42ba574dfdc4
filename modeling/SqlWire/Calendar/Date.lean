import SqlWire.Text.Digits

/-!
# Dates

A date of the proleptic Gregorian calendar is counted in days from 1970-01-01. Years are taken from
March to February here, so that a leap day is the last day of its year; 400 such years always have
the same number of days. `Date.ofDay` finds the date of a day, and `Date.ofDay?` refuses dates
outside the calendar.
-/

namespace SqlWire

/-- A day of the proleptic Gregorian calendar. The year before year 1 is year 0. -/
structure Date where
  year : Int
  month : Nat
  day : Nat
  deriving DecidableEq

namespace Date

/-- Days of 400 years. -/
def daysPerEra : Nat := 146097

/-- Days of 100 years that do not end with a leap day. -/
def daysPerCentury : Nat := 36524

/-- Days of 4 years that end with a leap day. -/
def daysPerCycle : Nat := 1461

/-- Days of a year without a leap day. -/
def daysPerYear : Nat := 365

/-- Days from 1 March of year 0 to 1 January 1970. -/
def epochOffset : Int := 719468

/-- Days before the month that is `index` months after March. -/
def daysBeforeMonth (index : Nat) : Nat := (153 * index + 2) / 5

/-- The date that lies `day` days after 1970-01-01. -/
def ofDay (day : Int) : Date :=
  let shifted := day + epochOffset
  let era := shifted / daysPerEra
  let inEra := (shifted % daysPerEra).toNat
  let century := min (inEra / daysPerCentury) 3
  let inCentury := inEra - daysPerCentury * century
  let cycle := inCentury / daysPerCycle
  let inCycle := inCentury - daysPerCycle * cycle
  let yearOfCycle := min (inCycle / daysPerYear) 3
  let inYear := inCycle - daysPerYear * yearOfCycle
  let monthIndex := (5 * inYear + 2) / 153
  let year := 400 * era + (100 * century + 4 * cycle + yearOfCycle : Nat)
  { year := if monthIndex < 10 then year else year + 1
    month := if monthIndex < 10 then monthIndex + 3 else monthIndex - 9
    day := inYear - daysBeforeMonth monthIndex + 1 }

/-- The first year of the calendar. -/
def firstYear : Int := -262143

/-- The last year of the calendar. -/
def lastYear : Int := 262142

/-- The date that lies `day` days after 1970-01-01, within the calendar. -/
def ofDay? (day : Int) : Option Date :=
  let date := ofDay day
  if firstYear ≤ date.year ∧ date.year ≤ lastYear then some date else none

/-- Four digits for the years 0 to 9999; a sign and at least four digits for others. -/
def yearText (year : Int) : String :=
  if 0 ≤ year ∧ year ≤ 9999 then Text.zeroPadded 4 year.toNat
  else (if year < 0 then "-" else "+") ++ Text.zeroPadded 4 year.natAbs

/-- Year, month and day with hyphens between them. -/
def text (date : Date) : String :=
  yearText date.year ++ "-" ++ Text.zeroPadded 2 date.month ++ "-" ++ Text.zeroPadded 2 date.day

end Date

end SqlWire
