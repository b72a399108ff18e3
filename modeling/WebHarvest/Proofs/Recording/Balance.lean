import Mathlib.Tactic.Linarith
import Mathlib.Tactic.Positivity
import WebHarvest.Proofs.Recording.ExactTokens

/-! The balance of a bucket in exact arithmetic. What was taken and what is left, a debt counted as
less than nothing, come to no more than the capacity and what has come in since the start; so once a
debt is waited off, what was taken does not either.
-/

namespace WebHarvest

namespace Clock

/-- The seconds from one instant to another. -/
def seconds (start now : Instant) : Rat :=
  ((now : Rat) - start) / second

theorem second_pos : (0 : Rat) < second := by
  decide

theorem seconds_add_seconds (start now later : Instant)
    : seconds start now + seconds now later = seconds start later := by
  rw [seconds, seconds, seconds, ← add_div, add_comm, sub_add_sub_cancel]

end Clock

namespace Recording

open Clock (Instant seconds)

/-- The lesser of two numbers of tokens. -/
theorem least_eq_min (x y : Rat) : Tokens.least x y = min x y := by
  change (if y < x then y else x) = min x y
  rw [min_def]
  split
  · rename_i less
    rw [if_neg (not_le_of_gt less)]
  · rename_i less
    rw [if_pos (le_of_not_gt less)]

/-- What comes in from one instant to a later one. -/
theorem income_eq {start now : Instant} (onward : start ≤ now) (rate : Rat)
    : Tokens.income (now - start) rate = rate * seconds start now := by
  change ((now - start : Nat) : Rat) * rate / Clock.second = _
  rw [seconds, Nat.cast_sub onward, mul_comm, mul_div_assoc]

namespace TokenBucket

variable {bucket : TokenBucket Rat} {created now returned : Instant} {debited fewer : Nat}

/-- How many nanoseconds a bucket's debt lasts; none if there is no debt. -/
def debtWait (bucket : TokenBucket Rat) : Nat :=
  if Tokens.isDebt bucket.tokens then Tokens.patience bucket.tokens bucket.rate else 0

/-- What was taken from a bucket since it was created, and what is left in it. -/
structure IsBalanced (bucket : TokenBucket Rat) (created : Instant) (debited : Nat) : Prop where
  paced : 0 < bucket.rate
  bounded : bucket.tokens ≤ bucket.capacity
  balance
    : debited + bucket.tokens ≤ bucket.capacity + bucket.rate * seconds created bucket.counted

theorem isBalanced_full (created : Instant) (capacity rate : Nat)
    : (full created capacity rate : TokenBucket Rat).IsBalanced created 0 where
  paced := by
    change (0 : Rat) < ((max rate 1 : Nat) : Rat)
    exact_mod_cast Nat.lt_of_lt_of_le Nat.one_pos (Nat.le_max_right rate 1)
  bounded := le_refl _
  balance := by simp [full, seconds]

/-- A refill brings what has come in since the last count, up to the capacity. -/
theorem tokens_refill (onward : bucket.counted ≤ now)
    : (bucket.refill now).tokens
      = min bucket.capacity (bucket.tokens + bucket.rate * seconds bucket.counted now) := by
  change Tokens.least (bucket.tokens + Tokens.income (now - bucket.counted) bucket.rate) _ = _
  rw [least_eq_min, income_eq onward, min_comm]

/-- A refill brings no more than what comes in meanwhile. -/
theorem IsBalanced.refill (balanced : bucket.IsBalanced created debited)
    (onward : bucket.counted ≤ now)
    : (bucket.refill now).IsBalanced created debited where
  paced := balanced.paced
  bounded := (tokens_refill onward).trans_le (min_le_left _ _)
  balance := by
    calc (debited : Rat) + (bucket.refill now).tokens
      _ ≤ debited + (bucket.tokens + bucket.rate * seconds bucket.counted now) :=
        add_le_add_right ((tokens_refill onward).trans_le (min_le_right _ _)) _
      _ ≤ bucket.capacity + bucket.rate * seconds created bucket.counted
          + bucket.rate * seconds bucket.counted now := by
        linarith only [balanced.balance]
      _ = bucket.capacity + bucket.rate * seconds created now := by
        rw [add_assoc, ← mul_add, Clock.seconds_add_seconds]

/-- A reservation leaves the refilled bucket without what it takes. -/
theorem reserve_snd (bucket : TokenBucket Rat) (now : Instant) (bytes : Nat)
    : (bucket.reserve now bytes).2
      = { bucket.refill now with tokens := (bucket.refill now).tokens - bytes } :=
  rfl

/-- What is taken is not left. -/
theorem IsBalanced.reserve (balanced : bucket.IsBalanced created debited)
    (onward : bucket.counted ≤ now) (bytes : Nat)
    : (bucket.reserve now bytes).2.IsBalanced created (debited + bytes) := by
  have refilled := balanced.refill onward
  have some : (0 : Rat) ≤ bytes := Nat.cast_nonneg bytes
  rw [reserve_snd]
  exact {
    paced := refilled.paced
    bounded := by
      dsimp only
      linarith only [refilled.bounded, some]
    balance := by
      dsimp only
      rw [Nat.cast_add]
      linarith only [refilled.balance]
  }

/-- Fewer bytes than were taken are balanced as well. -/
theorem IsBalanced.of_le (balanced : bucket.IsBalanced created debited) (less : fewer ≤ debited)
    : bucket.IsBalanced created fewer where
  paced := balanced.paced
  bounded := balanced.bounded
  balance := by
    have less : (fewer : Rat) ≤ debited := Nat.cast_le.mpr less
    linarith only [balanced.balance, less]

/-- A debt lasts for the least number of nanoseconds in which it comes in. -/
theorem debtWait_le_iff (paced : 0 < bucket.rate) {nanos : Nat}
    : bucket.debtWait ≤ nanos ↔ -bucket.tokens ≤ Tokens.income nanos bucket.rate := by
  have income : Tokens.income nanos bucket.rate = nanos * bucket.rate / Clock.second := rfl
  have second := Clock.second_pos
  by_cases debt : bucket.tokens < 0
  · have wait
        : bucket.debtWait = (-bucket.tokens * Clock.second / bucket.rate).ceil.toNat :=
      if_pos (decide_eq_true debt)
    rw [wait, Int.toNat_le, Rat.ceil_le_iff, income, le_div_iff₀ second, ← div_le_iff₀ paced]
    rfl
  · have wait : bucket.debtWait = 0 := if_neg (by simpa [Tokens.isDebt] using debt)
    have enough : 0 ≤ bucket.tokens := le_of_not_gt debt
    have nonneg : 0 ≤ nanos * bucket.rate / Clock.second := by positivity
    rw [wait, income]
    exact ⟨fun _ => (neg_nonpos.mpr enough).trans nonneg, fun _ => Nat.zero_le nanos⟩

/-- Once the debt is waited off, no more was taken than the bucket holds and what has come in. -/
theorem IsBalanced.debited_le (balanced : bucket.IsBalanced created debited)
    (waited : bucket.counted + bucket.debtWait ≤ returned)
    : (debited : Rat) ≤ bucket.capacity + bucket.rate * seconds created returned := by
  have onward : bucket.counted ≤ returned := Nat.le_trans (Nat.le_add_right _ _) waited
  have owed : -bucket.tokens ≤ bucket.rate * seconds bucket.counted returned := by
    rw [← income_eq onward, ← debtWait_le_iff balanced.paced]
    exact Nat.le_sub_of_add_le' waited
  calc (debited : Rat)
    _ ≤ bucket.capacity + bucket.rate * seconds created bucket.counted
        + bucket.rate * seconds bucket.counted returned := by
      linarith only [balanced.balance, owed]
    _ = bucket.capacity + bucket.rate * seconds created returned := by
      rw [add_assoc, ← mul_add, Clock.seconds_add_seconds]

/-- There is nothing to wait for just if there is no debt. -/
theorem debtWait_eq_zero_iff (paced : 0 < bucket.rate)
    : bucket.debtWait = 0 ↔ 0 ≤ bucket.tokens := by
  have nothing : Tokens.income 0 bucket.rate = 0 := by
    change ((0 : Nat) : Rat) * bucket.rate / Clock.second = 0
    rw [Nat.cast_zero, zero_mul, zero_div]
  rw [← Nat.le_zero, debtWait_le_iff paced, nothing, neg_nonpos]

end TokenBucket

end Recording

end WebHarvest
