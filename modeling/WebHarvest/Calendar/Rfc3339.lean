import WebHarvest.Calendar.Timestamp
import WebHarvest.Text.Blank

/-! Reading an instant from the relaxed exchange form: a date, a `T` of either case or a blank, a
time of day, and an offset. White space may stand before each part, numbers may have fewer digits
than usual, and a year with a sign may have more. -/

namespace WebHarvest.Calendar.Rfc3339

/-- The start of a text up to `limit` digits, at least one, as a number. -/
def readNumber? (limit : Nat) (cs : List Char) : Option (Nat × List Char) :=
  let digits := (cs.take limit).takeWhile Text.isAsciiDigit
  if digits.isEmpty then none else some (Text.Decimal.value digits, cs.drop digits.length)

/-- A number of one or two digits from `low` to `high`, after any white space. -/
def readField? (low high : Nat) (cs : List Char) : Option (Nat × List Char) := do
  let (n, rest) ← readNumber? 2 (Text.trimStart cs)
  if low ≤ n ∧ n ≤ high then some (n, rest) else none

/-- The text after a separator, which white space may precede. -/
def readMark? (mark : Char) (cs : List Char) : Option (List Char) :=
  match Text.trimStart cs with
  | c :: rest => if c == mark then some rest else none
  | [] => none

/-- A year: up to four digits, or any number of digits after a sign. -/
def readYear? (cs : List Char) : Option (Int × List Char) := do
  let cs := Text.trimStart cs
  let (year, rest) ← match cs with
    | '-' :: rest => (readNumber? rest.length rest).map fun (n, rest) => (-(n : Int), rest)
    | '+' :: rest => (readNumber? rest.length rest).map fun (n, rest) => ((n : Int), rest)
    | _ => (readNumber? 4 cs).map fun (n, rest) => ((n : Int), rest)
  return (year, rest)

/-- A date that the calendar has, in a year that can be represented. -/
def readDate? (cs : List Char) : Option (Date × List Char) := do
  let (year, rest) ← readYear? cs
  let rest ← readMark? '-' rest
  let (month, rest) ← readField? 1 12 rest
  let rest ← readMark? '-' rest
  let (day, rest) ← readField? 1 31 rest
  let date : Date := ⟨year, month, day⟩
  if date.isValid && firstYear ≤ year && year ≤ lastYear then some (date, rest) else none

/-- The nanoseconds of a fraction, if a point starts one; digits after the ninth do not count. -/
def readFraction? : List Char → Option (Nat × List Char)
  | '.' :: rest =>
    let digits := rest.takeWhile Text.isAsciiDigit
    if digits.isEmpty then none
    else
      let kept := digits.take 9
      some (Text.Decimal.value kept * Nat.pow 10 (9 - kept.length), rest.drop digits.length)
  | cs => some (0, cs)

/-- The text after one of the characters that divide date and time. -/
def readDivider? : List Char → Option (List Char)
  | c :: rest => if c == 'T' || c == 't' || c == ' ' then some rest else none
  | [] => none

/-- A time of day as seconds and nanoseconds. The sixty-first second of a minute is a leap second.
-/
def readTime? (cs : List Char) : Option (Nat × Nat × List Char) := do
  let (hour, rest) ← readField? 0 23 cs
  let rest ← readMark? ':' rest
  let (minute, rest) ← readField? 0 59 rest
  let rest ← readMark? ':' rest
  let (second, rest) ← readField? 0 60 rest
  let (nanos, rest) ← readFraction? rest
  let leap := if second == 60 then secondNanos else 0
  return ((hour * 60 + minute) * 60 + min second 59, nanos + leap, rest)

/-- The sign of an offset: plus, hyphen or minus sign. -/
def readSign? : List Char → Option (Int × List Char)
  | '+' :: rest => some (1, rest)
  | '-' :: rest => some (-1, rest)
  | '\u2212' :: rest => some (-1, rest)
  | _ => none

/-- Two digits, with no fewer than one accepted. -/
def readPair? : List Char → Option (Nat × List Char)
  | a :: b :: rest =>
    if Text.isAsciiDigit a && Text.isAsciiDigit b then
      some (Text.Decimal.value [a, b], rest)
    else none
  | _ => none

/-- An offset from UTC in seconds, less than a day in size: a `Z`, the word `UTC`, or hours and
minutes with any colons and white space between them. -/
def readOffset? (cs : List Char) : Option (Int × List Char) :=
  match Text.trimStart cs with
  | 'Z' :: rest | 'z' :: rest => some (0, rest)
  | cs =>
    if (cs.take 3).map Text.lowerAscii == ['u', 't', 'c'] then some (0, cs.drop 3)
    else do
      let (sign, rest) ← readSign? cs
      let (hours, rest) ← readPair? rest
      let (minutes, rest) ← readPair? (rest.dropWhile fun c => c == ':' || Text.isBlank c)
      let size : Int := hours * 3600 + minutes * 60
      if minutes ≤ 59 ∧ size < daySeconds then some (sign * size, rest) else none

/-- Reads a whole text as an instant that can be represented in UTC. -/
def read? (text : String) : Option Timestamp := do
  let (date, rest) ← readDate? text.toList
  let rest ← readDivider? rest
  let (second, nanos, rest) ← readTime? rest
  let (offset, rest) ← readOffset? rest
  let t : Timestamp := ⟨date.toDays * daySeconds + second - offset, nanos⟩
  if (Text.trimStart rest).isEmpty && t.isRepresentable then some t else none

end WebHarvest.Calendar.Rfc3339
