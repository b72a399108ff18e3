import WebHarvest.Calendar.Date
import WebHarvest.Text.Decimal

/-! Instants of civil time in UTC, and the two texts they are written as: the archive's date to the
second, and the exchange form with as many fraction digits as the instant needs. -/

namespace WebHarvest.Calendar

/-- An instant: whole seconds since the start of 1970, and nanoseconds within the second. A leap
second shares the number of the second before it and has a billion nanoseconds or more. -/
structure Timestamp where
  seconds : Int
  nanos : Nat
  deriving DecidableEq, Repr

/-- Seconds in a day. -/
def daySeconds : Int := 86400

/-- Nanoseconds in a second. -/
def secondNanos : Nat := 1000000000

/-- The first and the last year in which instants can be represented. -/
def firstYear : Int := -262143

/-- The last year in which instants can be represented. -/
def lastYear : Int := 262142

namespace Timestamp

/-- The day of an instant. -/
def date (t : Timestamp) : Date :=
  Date.ofDays (t.seconds / daySeconds)

/-- The second of the day of an instant. -/
def secondOfDay (t : Timestamp) : Nat :=
  (t.seconds % daySeconds).toNat

/-- An instant of a year that can be represented. -/
def isRepresentable (t : Timestamp) : Bool :=
  firstYear ≤ t.date.year && t.date.year ≤ lastYear

/-- The instant a number of milliseconds after the start of 1970, if it can be represented. -/
def ofMillis? (millis : Int) : Option Timestamp :=
  let t : Timestamp := ⟨millis / 1000, (millis % 1000).toNat * 1000000⟩
  if t.isRepresentable then some t else none

/-- A year of at least four digits; years outside 0 to 9999 have a sign. -/
def yearText (year : Int) : String :=
  let digits := Text.Decimal.padded 4 year.natAbs
  if year < 0 then "-" ++ digits else if year ≤ 9999 then digits else "+" ++ digits

/-- Day and time of day to the second, without a zone. A leap second is the sixty-first. -/
def civilText (t : Timestamp) : String :=
  let two := Text.Decimal.padded 2
  let date := t.date
  let second := t.secondOfDay % 60 + t.nanos / secondNanos
  yearText date.year ++ "-" ++ two date.month ++ "-" ++ two date.day ++ "T"
    ++ two (t.secondOfDay / 3600) ++ ":" ++ two (t.secondOfDay / 60 % 60) ++ ":" ++ two second

/-- The date of an archive record: the instant to the second, rounded down. -/
def warcDate (t : Timestamp) : String :=
  t.civilText ++ "Z"

/-- The fraction of a second, by milliseconds, microseconds or nanoseconds as needed. -/
def fractionText (nanos : Nat) : String :=
  if nanos == 0 then ""
  else if nanos % 1000000 == 0 then "." ++ Text.Decimal.padded 3 (nanos / 1000000)
  else if nanos % 1000 == 0 then "." ++ Text.Decimal.padded 6 (nanos / 1000)
  else "." ++ Text.Decimal.padded 9 nanos

/-- The exchange form of an instant. -/
def rfc3339 (t : Timestamp) : String :=
  t.civilText ++ fractionText (t.nanos % secondNanos) ++ "Z"

end Timestamp

end WebHarvest.Calendar
