import Mathlib.Algebra.Order.Field.Rat
import WebHarvest.Recording.TokenBucket

/-! Pacing by rational numbers of tokens. Nothing is rounded but the wait for a debt, which takes
whole nanoseconds and no fewer than it needs.
-/

namespace WebHarvest.Recording

/-- Tokens without any error of rounding. -/
instance : Tokens Rat where
  ofNat n := n
  add := (· + ·)
  sub := (· - ·)
  least x y := if y < x then y else x
  isDebt x := x < 0
  income nanos rate := nanos * rate / Clock.second
  patience debt rate := (-debt * Clock.second / rate).ceil.toNat

end WebHarvest.Recording
