import WebHarvest.Recording.Reading

/-! What paying for recorded bytes comes to. Without a rate it takes no time; with one, tokens are
reserved and waited for, and the guard can cut the wait short before or after they are reserved.
-/

namespace WebHarvest.Recording.Course

variable {α : Type}

/-- The course whose recorder holds tokens in some bucket. -/
def withTokens (course : Course α) (bucket : TokenBucket α) : Course α :=
  { course with recorder := { course.recorder with bucket := some bucket } }

/-- A wait that is broken off leads to where that was. -/
theorem now_breakOff (course : Course α) (moment : Clock.Instant)
    (pauses : List Clock.Instant)
    : (course.breakOff moment pauses).now = moment := by
  unfold breakOff
  split
  · rename_i same
    exact (by simpa using same : moment = course.now).symm
  · rfl

variable [Tokens α] {course : Course α} {guard : Clock.Guard} {count : Nat}

/-- Bytes that are paid for were free, or their tokens were reserved and waited for. -/
theorem cases_of_pay_ok {paid : Course α} (payment : course.pay guard count = .ok paid)
    : (course.recorder.bucket = none ∧ paid = course)
      ∨ ∃ bucket moment,
          course.recorder.bucket = some bucket
          ∧ guard.await course.now (some (bucket.acquire course.now count).1) = .event moment
          ∧ paid = (course.withTokens (bucket.acquire course.now count).2).breakOff moment [] := by
  unfold pay at payment
  split at payment
  · rename_i free
    cases payment
    exact .inl ⟨free, rfl⟩
  · rename_i bucket paced
    split at payment
    · simp only at payment
      split at payment
      · rename_i moment comes
        cases payment
        exact .inr ⟨bucket, moment, paced, comes, rfl⟩
      · cases payment
    · cases payment

/-- Bytes that are not paid for were waited for up to some instant, and the wait was cut short. -/
theorem cases_of_pay_error {reading : Reading α}
    (payment : course.pay guard count = .error reading)
    : ∃ bucket due,
        course.recorder.bucket.isSome = true
        ∧ (∀ moment, guard.await course.now (some due) ≠ .event moment)
        ∧ reading
          = (course.withTokens bucket).interrupted [] (guard.await course.now (some due)) := by
  unfold pay at payment
  split at payment
  · cases payment
  · rename_i bucket paced
    have free : course.withTokens bucket = course := by
      unfold withTokens
      rw [← paced]
    rw [paced]
    split at payment
    · simp only at payment
      split at payment
      · cases payment
      · rename_i cut
        cases payment
        exact ⟨(bucket.acquire course.now count).2, _, rfl, cut, rfl⟩
    · rename_i cut
      cases payment
      exact ⟨bucket, _, rfl, cut, by rw [free]⟩

end WebHarvest.Recording.Course
