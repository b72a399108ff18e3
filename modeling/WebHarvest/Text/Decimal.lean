import WebHarvest.Text.Ascii

/-! Whole numbers written in decimal: reading a run of digits, and writing with a least width. -/

namespace WebHarvest.Text.Decimal

/-- The number that a list of digits denotes, most significant digit first. -/
def value (digits : List Char) : Nat :=
  digits.foldl (fun n c => n * 10 + (c.toNat - '0'.toNat)) 0

/-- Reads a non-empty text that holds digits only. -/
def read? (cs : List Char) : Option Nat :=
  if !cs.isEmpty && cs.all isAsciiDigit then some (value cs) else none

/-- Reads digits that a single plus sign may precede, and refuses a number of `bound` or more. -/
def readBelow? (bound : Nat) (cs : List Char) : Option Nat :=
  let digits := match cs with
    | '+' :: rest => rest
    | _ => cs
  (read? digits).filter (· < bound)

/-- A number filled up with zeros on the left to at least `width` digits. -/
def padded (width n : Nat) : String :=
  let digits := toString n
  String.ofList (List.replicate (width - digits.length) '0') ++ digits

end WebHarvest.Text.Decimal
