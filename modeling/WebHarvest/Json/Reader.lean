import WebHarvest.Json.Basic
import WebHarvest.Text.Decimal
import WebHarvest.Text.Utf8

/-! Reading a text or a byte sequence as one JSON value. Every step gives what it read with what is
left to read. Bytes that are part of no character may stand in strings only, and leave them without
text. -/

namespace WebHarvest.Json

open Text (Glyph)

/-- White space between the parts of a value. -/
def isSpace (c : Char) : Bool :=
  c == ' ' || c == '\t' || c == '\n' || c == '\r'

/-- What comes after any white space. -/
def skipSpace (cs : List Glyph) : List Glyph :=
  cs.dropWhile (·.any isSpace)

/-- The code unit of four hexadecimal digits, of either case. -/
def unit? : List Glyph → Option Nat
  | [some a, some b, some c, some d] => do
    let a ← Text.hexValue? a
    let b ← Text.hexValue? b
    let c ← Text.hexValue? c
    let d ← Text.hexValue? d
    return ((a * 16 + b) * 16 + c) * 16 + d
  | _ => none

/-- The characters that a backslash may precede, with what they stand for. -/
def simpleEscape? : Char → Option Nat
  | '"' => some 0x22
  | '\\' => some 0x5c
  | '/' => some 0x2f
  | 'b' => some 0x08
  | 'f' => some 0x0c
  | 'n' => some 0x0a
  | 'r' => some 0x0d
  | 't' => some 0x09
  | _ => none

/-- What stands for a byte that is part of no character: a number beyond all code points. -/
def strayUnit : Nat := 0x110000

/-- The code points and surrogates of a string, after its opening quote. A control character below
the space must be escaped. -/
def readUnits? : List Glyph → Option (List Nat × List Glyph)
  | [] => none
  | some '"' :: rest => some ([], rest)
  | some '\\' :: some 'u' :: a :: b :: c :: d :: rest => do
    let unit ← unit? [a, b, c, d]
    let (units, rest) ← readUnits? rest
    return (unit :: units, rest)
  | some '\\' :: some e :: rest => do
    let unit ← simpleEscape? e
    let (units, rest) ← readUnits? rest
    return (unit :: units, rest)
  | some c :: rest =>
    if c.toNat < 0x20 || c == '\\' then none
    else do
      let (units, rest) ← readUnits? rest
      return (c.toNat :: units, rest)
  | none :: rest => do
    let (units, rest) ← readUnits? rest
    return (strayUnit :: units, rest)

/-- A surrogate that must be followed by a low one. -/
def isHighSurrogate (unit : Nat) : Bool :=
  0xd800 ≤ unit && unit ≤ 0xdbff

/-- A surrogate that must follow a high one. -/
def isLowSurrogate (unit : Nat) : Bool :=
  0xdc00 ≤ unit && unit ≤ 0xdfff

/-- The text of code points and surrogate pairs; none if there is anything else. -/
def joinUnits? : List Nat → Option (List Char)
  | [] => some []
  | [unit] => if unit.isValidChar then some [Char.ofNat unit] else none
  | unit :: next :: rest =>
    if isHighSurrogate unit then
      if isLowSurrogate next then
        let code := 0x10000 + (unit - 0xd800) * 0x400 + (next - 0xdc00)
        (joinUnits? rest).map (Char.ofNat code :: ·)
      else none
    else if unit.isValidChar then (joinUnits? (next :: rest)).map (Char.ofNat unit :: ·)
    else none

/-- A string after its opening quote. -/
def readString? (cs : List Glyph) : Option (Option String × List Glyph) := do
  let (units, rest) ← readUnits? cs
  return ((joinUnits? units).map String.ofList, rest)

/-- A run of at least one digit. -/
def readDigits? (cs : List Glyph) : Option (List Char × List Glyph) :=
  let digits := (cs.takeWhile (·.any Text.isAsciiDigit)).filterMap id
  if digits.isEmpty then none else some (digits, cs.dropWhile (·.any Text.isAsciiDigit))

/-- The digits before a point: a zero alone, or digits that start with another one. -/
def readWhole? (cs : List Glyph) : Option (List Char × List Glyph) := do
  let (digits, rest) ← readDigits? cs
  match digits with
  | '0' :: _ :: _ => none
  | _ => some (digits, rest)

/-- The digits after a point, if there is a point. -/
def readFraction? : List Glyph → Option (Option (List Char) × List Glyph)
  | some '.' :: rest => do
    let (digits, rest) ← readDigits? rest
    return (some digits, rest)
  | cs => some (none, cs)

/-- The exponent, if an `e` of either case announces one. -/
def readExponent? : List Glyph → Option (Option Int × List Glyph)
  | c :: rest =>
    if c == some 'e' || c == some 'E' then
      let negative := rest.head? == some '-'
      let unsigned := match rest with
        | some '+' :: more => more
        | some '-' :: more => more
        | _ => rest
      do
        let (digits, rest) ← readDigits? unsigned
        let size : Int := Text.Decimal.value digits
        return (some (if negative then -size else size), rest)
    else some (none, c :: rest)
  | [] => some (none, [])

/-- A number. -/
def readNumber? (cs : List Glyph) : Option (JsonNumber × List Glyph) := do
  let negative := cs.head? == some '-'
  let (digits, rest) ← readWhole? (if negative then cs.tail else cs)
  let (fraction, rest) ← readFraction? rest
  let (exponent, rest) ← readExponent? rest
  let size := Text.Decimal.value digits
  match fraction, exponent with
  | none, none =>
    if negative && size == 0 then return (.scaled true 0 0, rest)
    else return (.whole (if negative then -size else size), rest)
  | _, _ =>
    let places := fraction.getD []
    return (.scaled negative (Text.Decimal.value (digits ++ places))
      (exponent.getD 0 - places.length), rest)

/-- What comes after a literal that stands at the start. -/
def readLiteral? (literal : String) (cs : List Glyph) : Option (List Glyph) :=
  if (literal.toList.map some).isPrefixOf cs then some (cs.drop literal.length) else none

mutual

/-- A value, after any white space. The first argument bounds the number of parts. -/
def readValue? : Nat → List Glyph → Option (Json × List Glyph)
  | 0, _ => none
  | fuel + 1, cs =>
    match skipSpace cs with
    | some 'n' :: rest => (readLiteral? "ull" rest).map (null, ·)
    | some 't' :: rest => (readLiteral? "rue" rest).map (bool true, ·)
    | some 'f' :: rest => (readLiteral? "alse" rest).map (bool false, ·)
    | some '"' :: rest => (readString? rest).map fun (s, rest) => (string s, rest)
    | some '[' :: rest =>
      match skipSpace rest with
      | some ']' :: rest => some (array [], rest)
      | rest => (readItems? fuel rest).map fun (items, rest) => (array items, rest)
    | some '\x7b' :: rest =>
      match skipSpace rest with
      | some '\x7d' :: rest => some (object [], rest)
      | rest => (readMembers? fuel rest).map fun (members, rest) => (object members, rest)
    | rest => (readNumber? rest).map fun (n, rest) => (number n, rest)

/-- The items of an array up to its closing bracket; there is at least one. -/
def readItems? : Nat → List Glyph → Option (List Json × List Glyph)
  | 0, _ => none
  | fuel + 1, cs => do
    let (item, rest) ← readValue? fuel cs
    match skipSpace rest with
    | some ']' :: rest => some ([item], rest)
    | some ',' :: rest =>
      let (items, rest) ← readItems? fuel rest
      return (item :: items, rest)
    | _ => none

/-- The members of an object up to its closing brace; there is at least one. -/
def readMembers? : Nat → List Glyph → Option (List (Option String × Json) × List Glyph)
  | 0, _ => none
  | fuel + 1, cs => do
    let rest ← readLiteral? "\"" (skipSpace cs)
    let (key, rest) ← readString? rest
    let rest ← readLiteral? ":" (skipSpace rest)
    let (value, rest) ← readValue? fuel rest
    match skipSpace rest with
    | some '\x7d' :: rest => some ([(key, value)], rest)
    | some ',' :: rest =>
      let (members, rest) ← readMembers? fuel rest
      return ((key, value) :: members, rest)
    | _ => none

end

/-- Reads what is one value with white space around it. -/
def readGlyphs? (cs : List Glyph) : Option Json := do
  let (value, rest) ← readValue? (cs.length + 1) cs
  if (skipSpace rest).isEmpty then some value else none

/-- Reads a text that is one value. -/
def read? (text : String) : Option Json :=
  readGlyphs? (text.toList.map some)

/-- Reads a byte sequence that is one value. -/
def readBytes? (bytes : Bytes) : Option Json :=
  match Text.ofUtf8? bytes with
  | some text => read? text
  | none => readGlyphs? (Text.glyphs bytes)

end WebHarvest.Json
