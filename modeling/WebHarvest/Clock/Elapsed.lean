import WebHarvest.Clock.Timer
import WebHarvest.Text.Decimal

/-! Lengths of time as text: in the largest unit of which there is at least one, with a decimal
fraction that has no zeros at its end. -/

namespace WebHarvest.Clock

/-- The digits of a fraction of `10 ^ places` without the zeros at their end, after a point. -/
def fractionText (places fraction : Nat) : String :=
  let digits := (Text.Decimal.padded places fraction).toList
  let kept := (digits.reverse.dropWhile (· == '0')).reverse
  if kept.isEmpty then "" else String.ofList ('.' :: kept)

/-- A length of time in nanoseconds as text. -/
def elapsedText (nanos : Nat) : String :=
  let write (places : Nat) (unit : String) :=
    toString (nanos / Nat.pow 10 places) ++ fractionText places (nanos % Nat.pow 10 places) ++ unit
  if Nat.pow 10 9 ≤ nanos then write 9 "s"
  else if Nat.pow 10 6 ≤ nanos then write 6 "ms"
  else if Nat.pow 10 3 ≤ nanos then write 3 "µs"
  else write 0 "ns"

end WebHarvest.Clock
