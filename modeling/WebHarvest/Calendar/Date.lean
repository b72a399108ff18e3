/-! Days of the proleptic Gregorian calendar, counted from the first of January 1970. A year begins
in March while days are counted, so that the leap day is its last. -/

namespace WebHarvest.Calendar

/-- A day by year, month from one to twelve and day of the month. -/
structure Date where
  year : Int
  month : Nat
  day : Nat
  deriving DecidableEq, Repr

/-- A year with a leap day. -/
def isLeapYear (year : Int) : Bool :=
  year % 4 == 0 && (year % 100 != 0 || year % 400 == 0)

/-- Days in a month. -/
def monthLength (year : Int) (month : Nat) : Nat :=
  if month == 2 then (if isLeapYear year then 29 else 28)
  else if month == 4 || month == 6 || month == 9 || month == 11 then 30
  else 31

namespace Date

/-- A day that the calendar has. -/
def isValid (date : Date) : Bool :=
  1 ≤ date.month && date.month ≤ 12 && 1 ≤ date.day
    && date.day ≤ monthLength date.year date.month

/-- Days in four hundred years, after which the calendar repeats. -/
def cycleDays : Int := 146097

/-- Days from the first of March of year zero to the first of January 1970. -/
def epochOffset : Int := 719468

/-- Days from the first of March to the first of the month that is `month` months later. -/
def daysBeforeMonth (month : Int) : Int :=
  (153 * month + 2) / 5

/-- Days since the first of January 1970. -/
def toDays (date : Date) : Int :=
  let year := if date.month ≤ 2 then date.year - 1 else date.year
  let month : Int := if date.month ≤ 2 then date.month + 9 else date.month - 3
  365 * year + year / 4 - year / 100 + year / 400 + daysBeforeMonth month + (date.day - 1)
    - epochOffset

/-- The day that is a number of days after the first of January 1970. -/
def ofDays (days : Int) : Date :=
  let fromMarch := days + epochOffset
  let cycle := fromMarch / cycleDays
  let inCycle := fromMarch % cycleDays
  let yearOfCycle := (inCycle - inCycle / 1460 + inCycle / 36524 - inCycle / 146096) / 365
  let inYear := inCycle - (365 * yearOfCycle + yearOfCycle / 4 - yearOfCycle / 100)
  let month := (5 * inYear + 2) / 153
  let day := inYear - daysBeforeMonth month + 1
  let year := yearOfCycle + 400 * cycle
  if month < 10 then ⟨year, (month + 3).toNat, day.toNat⟩
  else ⟨year + 1, (month - 9).toNat, day.toNat⟩

end Date

end WebHarvest.Calendar
