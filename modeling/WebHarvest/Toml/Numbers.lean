import WebHarvest.Calendar.Date
import WebHarvest.Text.Decimal
import WebHarvest.Toml.Basic

/-! Numbers and moments in time of TOML. Digits may be parted by single underscores. -/

namespace WebHarvest.Toml

/-- A run of digits of some kind with single underscores between them, and the text after it. -/
def digitRun (isDigit : Char → Bool) : List Char → List Char × List Char
  | '_' :: d :: rest =>
    if isDigit d then
      let (ds, rest) := digitRun isDigit rest
      (d :: ds, rest)
    else ([], '_' :: d :: rest)
  | d :: rest =>
    if isDigit d then
      let (ds, rest) := digitRun isDigit rest
      (d :: ds, rest)
    else ([], d :: rest)
  | [] => ([], [])

/-- A run that starts with a digit. -/
def readRun? (isDigit : Char → Bool) (cs : List Char) : Option (List Char × List Char) :=
  if cs.head?.any isDigit then some (digitRun isDigit cs) else none

/-- The number of digits in a base. -/
def valueIn (base : Nat) (digits : List Char) : Nat :=
  digits.foldl (fun n d => n * base + (Text.hexValue? d).getD 0) 0

/-- Whole numbers fit into sixty-four bits with a sign. -/
def integer? (i : Int) : Option Toml :=
  if -Int.pow 2 63 ≤ i ∧ i < Int.pow 2 63 then some (integer i) else none

/-- A whole number in a base, after its mark. -/
def readInBase? (base : Nat) (cs : List Char) : Option (Toml × List Char) := do
  let (digits, rest) ← readRun? (fun c => (Text.hexValue? c).any (· < base)) cs
  let value ← integer? (valueIn base digits)
  return (value, rest)

/-- A sign, and the text after it. -/
def readSign : List Char → Bool × List Char
  | '+' :: rest => (false, rest)
  | '-' :: rest => (true, rest)
  | cs => (false, cs)

/-- The digits of a fraction, if a point starts one that has digits. -/
def readFraction (cs : List Char) : List Char × List Char :=
  match cs with
  | '.' :: rest => (readRun? Text.isAsciiDigit rest).getD ([], cs)
  | _ => ([], cs)

/-- An exponent, if an `e` of either case starts one that has digits. -/
def readExponent (cs : List Char) : Option Int × List Char :=
  match cs with
  | e :: rest =>
    if e == 'e' || e == 'E' then
      let (negative, digits) := readSign rest
      match readRun? Text.isAsciiDigit digits with
      | some (digits, rest) =>
        let size : Int := Text.Decimal.value digits
        (some (if negative then -size else size), rest)
      | none => (none, cs)
    else (none, cs)
  | [] => (none, [])

/-- Whether digits with an exponent are beyond what double precision holds. -/
def isTooLarge (digits : Nat) (exponent : Int) : Bool :=
  if digits == 0 || exponent < -(toString digits).length then false
  else 400 < exponent
    || (Nat.pow 2 1024 - Nat.pow 2 970) * Nat.pow 10 (-exponent).toNat
        ≤ digits * Nat.pow 10 exponent.toNat

/-- A number with a fraction or an exponent. One that is too large is refused if it is positive. -/
def decimal? (negative : Bool) (digits : Nat) (exponent : Int) : Option Toml :=
  if isTooLarge digits exponent then (if negative then some infinite else none)
  else some (decimal (.scaled negative digits exponent))

/-- A number in decimal, after its sign. -/
def readDecimal? (negative : Bool) (cs : List Char) : Option (Toml × List Char) := do
  let (digits, rest) ← readRun? Text.isAsciiDigit cs
  if digits.head? == some '0' && digits.length != 1 then none
  else
    let (fraction, rest) := readFraction rest
    let (exponent, rest) := readExponent rest
    if fraction.isEmpty && exponent.isNone then
      let size : Int := Text.Decimal.value digits
      let value ← integer? (if negative then -size else size)
      return (value, rest)
    else
      let value ← decimal? negative (Text.Decimal.value (digits ++ fraction))
        (exponent.getD 0 - fraction.length)
      return (value, rest)

/-- The text after a word that it starts with. -/
def afterWord? (word : String) (cs : List Char) : Option (List Char) :=
  if word.toList.isPrefixOf cs then some (cs.drop word.length) else none

/-- A number of any form. -/
def readNumber? (cs : List Char) : Option (Toml × List Char) :=
  match cs with
  | '0' :: 'x' :: rest => readInBase? 16 rest
  | '0' :: 'o' :: rest => readInBase? 8 rest
  | '0' :: 'b' :: rest => readInBase? 2 rest
  | _ =>
    let (negative, unsigned) := readSign cs
    match (afterWord? "inf" unsigned).or (afterWord? "nan" unsigned) with
    | some rest => some (infinite, rest)
    | none => readDecimal? negative unsigned

/-- A number of exactly `count` digits from `low` to `high`, with the text after it. -/
def readField? (count low high : Nat) (cs : List Char) : Option (Nat × List Char) := do
  let digits := cs.take count
  let n ← Text.Decimal.read? digits
  if digits.length == count && low ≤ n && n ≤ high then some (n, cs.drop count) else none

/-- The text after a character that it starts with. -/
def afterChar? (c : Char) : List Char → Option (List Char)
  | d :: rest => if d == c then some rest else none
  | [] => none

/-- The text after a date that the calendar has. -/
def readDate? (cs : List Char) : Option (List Char) := do
  let (year, rest) ← readField? 4 0 9999 cs
  let (month, rest) ← readField? 2 1 12 (← afterChar? '-' rest)
  let (day, rest) ← readField? 2 1 31 (← afterChar? '-' rest)
  let date : Calendar.Date := ⟨year, month, day⟩
  if date.isValid then some rest else none

/-- The text after a time of day with any fraction of a second. -/
def readTime? (cs : List Char) : Option (List Char) := do
  let (_, rest) ← readField? 2 0 23 cs
  let (_, rest) ← readField? 2 0 59 (← afterChar? ':' rest)
  let (_, rest) ← readField? 2 0 60 (← afterChar? ':' rest)
  match rest with
  | '.' :: more =>
    if more.head?.any Text.isAsciiDigit then some (more.dropWhile Text.isAsciiDigit)
    else some rest
  | _ => some rest

/-- The text after an offset from UTC: a `Z` of either case, or a sign, hours and minutes. -/
def readOffset? (cs : List Char) : Option (List Char) :=
  match cs with
  | c :: rest =>
    if c == 'Z' || c == 'z' then some rest
    else if c == '+' || c == '-' then do
      let (_, rest) ← readField? 2 0 23 rest
      let (_, rest) ← readField? 2 0 59 (← afterChar? ':' rest)
      return rest
    else some cs
  | [] => some []

/-- Whether a text starts with `count` digits and a mark. -/
def startsWithField (count : Nat) (mark : Char) (cs : List Char) : Bool :=
  (cs.take count).length == count && (cs.take count).all Text.isAsciiDigit
    && (cs.drop count).head? == some mark

/-- The text after a date, with a time of day and an offset if there are any. -/
def readMomentRest? (cs : List Char) : Option (List Char) := do
  let rest ← readDate? cs
  match rest with
  | c :: time =>
    if (c == 'T' || c == 't' || c == ' ') && startsWithField 2 ':' time then
      readOffset? (← readTime? time)
    else some rest
  | [] => some []

/-- A moment in time, if the text starts like one: a date, a time of day, or both. -/
def readMoment? (cs : List Char) : Option (Toml × List Char) := do
  let rest ← if startsWithField 4 '-' cs then readMomentRest? cs else readTime? cs
  return (moment (String.ofList (cs.take (cs.length - rest.length))), rest)

/-- A number or a moment in time. -/
def readQuantity? (cs : List Char) : Option (Toml × List Char) :=
  if startsWithField 4 '-' cs || startsWithField 2 ':' cs then readMoment? cs else readNumber? cs

end WebHarvest.Toml
