import WebHarvest.Proofs.Clock.Waits
import WebHarvest.Proofs.Recording.Balance

/-! Buckets in use, in exact arithmetic. However operations and advances of the clock follow one
another, what a bucket holds is told by the operations alone, and no one who waits for its tokens
goes on before they have come in.
-/

namespace WebHarvest.Recording

open Clock (Instant seconds)

-----------------------------------------------------------------------------------------
-- Operations
-----------------------------------------------------------------------------------------

/-- What is done with a bucket, and the time that passes in between. -/
inductive BucketOperation where
  | reserve (bytes : Nat)
  | acquire (bytes : Nat)
  | advance (nanos : Nat)
  deriving DecidableEq, Repr

namespace BucketOperation

/-- What is left by an operation of what there was: bytes are taken, into debt if need be, and what
time brings is kept up to the capacity.
-/
def leave (capacity rate level : Rat) : BucketOperation → Rat
  | .reserve bytes => level - bytes
  | .acquire bytes => level - bytes
  | .advance nanos => min capacity (level + rate * (nanos / Clock.second))

/-- What operations leave of a full bucket. -/
def level (capacity rate : Rat) (operations : List BucketOperation) : Rat :=
  operations.foldl (leave capacity rate) capacity

end BucketOperation

/-- A bucket in use: the instant that has come, and how many bytes were taken. Those who wait for
their tokens do so while others use the bucket.
-/
structure BucketRun (α : Type) where
  bucket : TokenBucket α
  now : Instant
  debited : Nat

namespace BucketRun

variable {α : Type} [Tokens α]

def start (created : Instant) (capacity rate : Nat) : BucketRun α :=
  ⟨.full created capacity rate, created, 0⟩

def perform (run : BucketRun α) : BucketOperation → BucketRun α
  | .reserve bytes => ⟨(run.bucket.reserve run.now bytes).2, run.now, run.debited + bytes⟩
  | .acquire bytes => ⟨(run.bucket.acquire run.now bytes).2, run.now, run.debited + bytes⟩
  | .advance nanos => { run with now := run.now + nanos }

/-- What comes of operations in order. -/
def performAll (run : BucketRun α) (operations : List BucketOperation) : BucketRun α :=
  operations.foldl perform run

end BucketRun

-----------------------------------------------------------------------------------------
-- Levels
-----------------------------------------------------------------------------------------

namespace TokenBucket

variable {bucket : TokenBucket Rat} {now : Instant}

/-- Nothing comes in at the instant of the last count. -/
theorem tokens_refill_counted (bounded : bucket.tokens ≤ bucket.capacity)
    : (bucket.refill bucket.counted).tokens = bucket.tokens := by
  rw [tokens_refill (Nat.le_refl _), seconds, sub_self, zero_div, mul_zero, add_zero,
    min_eq_right bounded]

/-- What comes in later is kept up to the capacity, whether the bucket is refilled before or not. -/
theorem tokens_refill_add (paced : 0 < bucket.rate) (onward : bucket.counted ≤ now) (nanos : Nat)
    : (bucket.refill (now + nanos)).tokens
      = min bucket.capacity
          ((bucket.refill now).tokens + bucket.rate * (nanos / Clock.second)) := by
  have length : seconds now (now + nanos) = nanos / Clock.second := by
    rw [seconds, Nat.cast_add, add_sub_cancel_left]
  have income : 0 ≤ bucket.rate * (nanos / Clock.second : Rat) :=
    mul_nonneg paced.le (div_nonneg (Nat.cast_nonneg nanos) Clock.second_pos.le)
  rw [tokens_refill (Nat.le_add_right_of_le onward), tokens_refill onward,
    ← Clock.seconds_add_seconds bucket.counted now, length, mul_add, ← add_assoc]
  generalize bucket.tokens + bucket.rate * seconds bucket.counted now = held
  -- What would be above the capacity before is so afterwards.
  rcases le_total held bucket.capacity with below | above
  · rw [min_eq_right below]
  · rw [min_eq_left above, min_eq_left (le_add_of_nonneg_right income),
      min_eq_left (above.trans (le_add_of_nonneg_right income))]

end TokenBucket

namespace BucketRun

/-- A bucket in use is balanced, keeps its capacity and its rate, and is refilled to a level. -/
structure IsKept (run : BucketRun Rat) (created : Instant) (capacity rate level : Rat)
    : Prop where
  balanced : run.bucket.IsBalanced created run.debited
  onward : run.bucket.counted ≤ run.now
  capacity : run.bucket.capacity = capacity
  rate : run.bucket.rate = rate
  holds : (run.bucket.refill run.now).tokens = level

variable {run : BucketRun Rat} {created : Instant} {capacity rate level : Rat}

theorem isKept_start (created : Instant) (capacity rate : Nat)
    : (start created capacity rate : BucketRun Rat).IsKept created (max capacity 1 : Nat)
        (max rate 1 : Nat) (max capacity 1 : Nat) where
  balanced := TokenBucket.isBalanced_full created capacity rate
  onward := Nat.le_refl created
  capacity := rfl
  rate := rfl
  holds := TokenBucket.tokens_refill_counted (TokenBucket.isBalanced_full created _ rate).bounded

/-- A reservation leaves the level without what it takes. -/
theorem IsKept.tokens_reserve (kept : run.IsKept created capacity rate level) (bytes : Nat)
    : (run.bucket.reserve run.now bytes).2.tokens = level - bytes :=
  congrArg (· - (bytes : Rat)) kept.holds

/-- Each operation keeps it so and leaves its level, by cases. -/
theorem IsKept.perform (kept : run.IsKept created capacity rate level)
    (operation : BucketOperation)
    : (run.perform operation).IsKept created capacity rate
        (operation.leave capacity rate level) := by
  cases operation with
  | reserve bytes | acquire bytes =>
      have taken := kept.balanced.reserve kept.onward bytes
      exact {
        balanced := taken
        onward := Nat.le_refl run.now
        capacity := kept.capacity
        rate := kept.rate
        holds := (TokenBucket.tokens_refill_counted taken.bounded).trans (kept.tokens_reserve bytes)
      }
  | advance nanos =>
      exact { kept with
        onward := Nat.le_add_right_of_le kept.onward
        holds := by
          have brought := TokenBucket.tokens_refill_add kept.balanced.paced kept.onward nanos
          rw [kept.holds, kept.capacity, kept.rate] at brought
          exact brought
      }

/-- So do all of them, by induction. -/
theorem isKept_performAll (created : Instant) (capacity rate : Nat)
    (operations : List BucketOperation)
    : ((start created capacity rate : BucketRun Rat).performAll operations).IsKept created
        (max capacity 1 : Nat) (max rate 1 : Nat)
        (BucketOperation.level (max capacity 1 : Nat) (max rate 1 : Nat) operations) := by
  induction operations using List.reverseRecOn with
  | nil => exact isKept_start created capacity rate
  | append_singleton operations operation ih =>
      rw [BucketRun.performAll, BucketOperation.level, List.foldl_append, List.foldl_append]
      exact ih.perform operation

end BucketRun

-----------------------------------------------------------------------------------------
-- Waits
-----------------------------------------------------------------------------------------

namespace TokenBucket

variable {bucket : TokenBucket Rat} {now : Instant}

/-- The instant at which the wait for a bucket's debt is over. -/
def settled (bucket : TokenBucket Rat) : Instant :=
  if bucket.debtWait == 0 then bucket.counted else Clock.wake bucket.counted bucket.debtWait

/-- The wait for a bucket's debt lasts as long as the debt. -/
def SleepsOut (bucket : TokenBucket Rat) : Prop :=
  bucket.counted + bucket.debtWait ≤ bucket.settled

instance (bucket : TokenBucket Rat) : Decidable bucket.SleepsOut :=
  inferInstanceAs (Decidable (_ ≤ _))

/-- So it does unless the debt lasts longer than any sleep. -/
theorem sleepsOut_of_le (short : bucket.debtWait ≤ Clock.longestSleep) : bucket.SleepsOut := by
  unfold SleepsOut settled
  split
  · rename_i nothing
    rw [beq_iff_eq.mp nothing, Nat.add_zero]
  · rw [Clock.wake, Nat.min_eq_left short]
    exact Clock.due_le_ring _ _

theorem counted_le_settled (bucket : TokenBucket Rat) : bucket.counted ≤ bucket.settled := by
  unfold settled
  split
  · exact Nat.le_refl _
  · exact Clock.le_ring _ _

/-- What is acquired is paid for when the debt that it leaves is settled. -/
theorem acquire_fst (bucket : TokenBucket Rat) (now : Instant) (bytes : Nat)
    : (bucket.acquire now bytes).1 = (bucket.acquire now bytes).2.settled :=
  rfl

/-- No sleep is over at once. -/
theorem acquire_fst_eq_iff (bucket : TokenBucket Rat) (now : Instant) (bytes : Nat)
    : (bucket.acquire now bytes).1 = now ↔ (bucket.reserve now bytes).1 = 0 := by
  unfold acquire
  dsimp only
  constructor
  · intro same
    split at same
    · rename_i nothing
      exact beq_iff_eq.mp nothing
    · have late := Clock.due_le_ring now (now + min (bucket.reserve now bytes).1 Clock.longestSleep)
      rw [← Clock.wake, same] at late
      have none : min (bucket.reserve now bytes).1 Clock.longestSleep ≤ 0 :=
        Nat.le_of_add_le_add_left late
      exact Nat.le_zero.mp ((min_le_iff.mp none).resolve_right (by decide))
  · intro nothing
    rw [nothing]
    rfl

end TokenBucket

namespace BucketRun

variable {run : BucketRun Rat} {created : Instant} {capacity rate level : Rat}

/-- Bytes are waited for until what the level lacks has come in. -/
theorem IsKept.reserve_fst_le_iff (kept : run.IsKept created capacity rate level)
    (bytes nanos : Nat)
    : (run.bucket.reserve run.now bytes).1 ≤ nanos
      ↔ bytes - level ≤ rate * (nanos / Clock.second) := by
  have taken := kept.balanced.reserve kept.onward bytes
  have lacking : -(run.bucket.reserve run.now bytes).2.tokens = bytes - level := by
    rw [kept.tokens_reserve, neg_sub]
  have income
      : Tokens.income nanos (run.bucket.reserve run.now bytes).2.rate
        = rate * (nanos / Clock.second) := by
    rw [TokenBucket.reserve_snd, ← kept.rate]
    change (nanos : Rat) * run.bucket.rate / Clock.second = _
    rw [mul_comm, mul_div_assoc]
  rw [← lacking, ← income]
  exact TokenBucket.debtWait_le_iff taken.paced

/-- So they are not waited for just if the level covers them. -/
theorem IsKept.reserve_fst_eq_zero_iff (kept : run.IsKept created capacity rate level)
    (bytes : Nat)
    : (run.bucket.reserve run.now bytes).1 = 0 ↔ bytes ≤ level := by
  rw [← Nat.le_zero, kept.reserve_fst_le_iff, Nat.cast_zero, zero_div, mul_zero, sub_nonpos]

/-- The law of a bucket that was created at some instant and has come to a level, for some bytes
that are taken next: what it holds, what is left, how long the debt is waited off, and when what was
taken since it was created has come in.
-/
structure IsRated (run : BucketRun Rat) (created : Instant) (capacity rate level : Rat)
    (bytes : Nat)
    : Prop where
  capped : run.bucket.tokens ≤ capacity
  refilled
    : (run.bucket.refill run.now).tokens
      = min capacity (run.bucket.tokens + rate * seconds run.bucket.counted run.now)
  holds : (run.bucket.refill run.now).tokens = level
  left : (run.bucket.reserve run.now bytes).2.tokens = level - bytes
  alike : (run.bucket.acquire run.now bytes).2 = (run.bucket.reserve run.now bytes).2
  waits
    : ∀ nanos : Nat,
        (run.bucket.reserve run.now bytes).1 ≤ nanos
        ↔ bytes - level ≤ rate * (nanos / Clock.second)
  free : (run.bucket.reserve run.now bytes).1 = 0 ↔ bytes ≤ level
  atOnce : (run.bucket.acquire run.now bytes).1 = run.now ↔ bytes ≤ level
  sleeps
    : (run.bucket.reserve run.now bytes).1 ≤ Clock.longestSleep
      → run.now + (run.bucket.reserve run.now bytes).1 ≤ (run.bucket.acquire run.now bytes).1
  bound
    : ∀ returned,
        run.now + (run.bucket.reserve run.now bytes).1 ≤ returned
        → ((run.debited + bytes : Nat) : Rat) ≤ capacity + rate * seconds created returned

/-- The law holds of every bucket in use. -/
theorem IsKept.isRated (kept : run.IsKept created capacity rate level) (bytes : Nat)
    : run.IsRated created capacity rate level bytes where
  capped := kept.capacity ▸ kept.balanced.bounded
  refilled := by
    rw [← kept.capacity, ← kept.rate]
    exact TokenBucket.tokens_refill kept.onward
  holds := kept.holds
  left := kept.tokens_reserve bytes
  alike := rfl
  waits := kept.reserve_fst_le_iff bytes
  free := kept.reserve_fst_eq_zero_iff bytes
  atOnce := (run.bucket.acquire_fst_eq_iff run.now bytes).trans (kept.reserve_fst_eq_zero_iff bytes)
  sleeps short :=
    let left := (run.bucket.reserve run.now bytes).2
    show left.SleepsOut from TokenBucket.sleepsOut_of_le short
  bound returned waited := by
    rw [← kept.capacity, ← kept.rate]
    exact (kept.balanced.reserve kept.onward bytes).debited_le waited

end BucketRun

end WebHarvest.Recording
