/-! Letters of ASCII: folding to lower case and comparing without regard to case. All other
characters stand for themselves. -/

namespace WebHarvest.Text

/-- Lower case of an ASCII letter; any other character is left alone. -/
def lowerAscii (c : Char) : Char :=
  if 'A' ≤ c && c ≤ 'Z' then Char.ofNat (c.toNat + 32) else c

/-- Upper case of an ASCII letter; any other character is left alone. -/
def upperAscii (c : Char) : Char :=
  if 'a' ≤ c && c ≤ 'z' then Char.ofNat (c.toNat - 32) else c

/-- A text with its ASCII letters in lower case. -/
def lowerString (s : String) : String :=
  String.ofList (s.toList.map lowerAscii)

/-- Two texts that differ at most in the case of ASCII letters. -/
def sameIgnoringCase (s t : String) : Bool :=
  lowerString s == lowerString t

/-- The letters `a` to `z` and `A` to `Z`. -/
def isAsciiLetter (c : Char) : Bool :=
  ('a' ≤ c && c ≤ 'z') || ('A' ≤ c && c ≤ 'Z')

/-- The digits `0` to `9`. -/
def isAsciiDigit (c : Char) : Bool :=
  '0' ≤ c && c ≤ '9'

/-- The value of a hexadecimal digit of either case. -/
def hexValue? (c : Char) : Option Nat :=
  if isAsciiDigit c then some (c.toNat - '0'.toNat)
  else if 'a' ≤ c && c ≤ 'f' then some (c.toNat - 'a'.toNat + 10)
  else if 'A' ≤ c && c ≤ 'F' then some (c.toNat - 'A'.toNat + 10)
  else none

end WebHarvest.Text
