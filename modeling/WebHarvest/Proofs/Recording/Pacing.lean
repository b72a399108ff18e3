import WebHarvest.Proofs.Recording.BucketRuns
import WebHarvest.Proofs.Recording.Declared
import WebHarvest.Proofs.Recording.OperationRuns

/-! What a rate bounds, in exact arithmetic. No one who waits for a bucket's tokens goes on before
they have come in; so a read that is complete took the time that its bytes take at the rate, less
those of the first second.
-/

namespace WebHarvest.Recording

open Clock (Instant seconds)

-----------------------------------------------------------------------------------------
-- Reading at a rate
-----------------------------------------------------------------------------------------

/-- A recorder that was opened at an instant has paid for its body by another one: no more than its
body was taken from its bucket, and the debt that this left is settled.
-/
def Recorder.IsPaced (recorder : Recorder Rat) (opened : Instant) (rate : Nat) (now : Instant)
    : Prop :=
  ∃ bucket,
    recorder.bucket = some bucket
    ∧ bucket.capacity = rate
    ∧ bucket.rate = rate
    ∧ bucket.IsBalanced opened recorder.bodySize
    ∧ bucket.settled ≤ now

namespace Recorder

variable {recorder : Recorder Rat} {opened now later : Instant} {rate : Nat}

theorem IsPaced.mono (paced : recorder.IsPaced opened rate now) (onward : now ≤ later)
    : recorder.IsPaced opened rate later := by
  obtain ⟨bucket, has, capacity, income, balanced, settled⟩ := paced
  exact ⟨bucket, has, capacity, income, balanced, Nat.le_trans settled onward⟩

/-- What was paid for has taken its time at the rate, but for the first second. -/
theorem IsPaced.le_seconds (paced : recorder.IsPaced opened rate now)
    (sleeps : ∀ bucket ∈ recorder.bucket, bucket.SleepsOut)
    : ((recorder.bodySize : Rat) - rate) / rate ≤ seconds opened now := by
  obtain ⟨bucket, has, capacity, income, balanced, settled⟩ := paced
  have waited : bucket.counted + bucket.debtWait ≤ now :=
    Nat.le_trans (sleeps bucket has) settled
  have bound := balanced.debited_le waited
  have positive := balanced.paced
  rw [capacity, income] at bound
  rw [income] at positive
  rw [div_le_iff₀ positive]
  linarith only [bound]

end Recorder

namespace Course

variable {course : Course Rat} {guard : Clock.Guard} {opened : Instant} {rate count : Nat}

/-- Bytes that are paid for are taken from the bucket, and the wait for them is over. -/
theorem isPaced_of_pay_ok (course : Course Rat) {before : Recorder Rat} {paid : Course Rat}
    (paced : before.IsPaced opened rate course.now)
    (same : course.recorder.bucket = before.bucket)
    (grown : course.recorder.bodySize ≤ before.bodySize + count)
    (payment : course.pay guard count = .ok paid)
    : paid.recorder.IsPaced opened rate paid.now := by
  obtain ⟨bucket, has, capacity, income, balanced, settled⟩ := paced
  have onward : bucket.counted ≤ course.now := Nat.le_trans bucket.counted_le_settled settled
  obtain ⟨free, -⟩ | ⟨other, moment, holds, comes, rfl⟩ := cases_of_pay_ok payment
  · rw [same, has] at free
    cases free
  · obtain rfl : other = bucket := Option.some.inj (holds.symm.trans (same.trans has))
    have due := Clock.Guard.eq_of_await_event comes
    refine ⟨(other.acquire course.now count).2, ?_, capacity, income, ?_, ?_⟩
    · rw [recorder_breakOff]
      rfl
    · rw [recorder_breakOff]
      exact (balanced.reserve onward count).of_le grown
    · rw [now_breakOff, ← due, TokenBucket.acquire_fst]

/-- A chunk that was written within the declared length is paid for with the wait for its bytes. -/
theorem isPaced_of_writes (course : Course Rat) {written : Recorder Rat} {paid : Course Rat}
    {declared : Option Nat} {bytes : Bytes} {result : Except RecordError Unit}
    (paced : course.recorder.IsPaced opened rate course.now)
    (writes : course.recorder.Writes declared bytes written result)
    (payment
      : (course.withRecorder written).pay guard
          (course.recorder.withinDeclared declared bytes).length
        = .ok paid)
    : paid.recorder.IsPaced opened rate paid.now := by
  have grown :=
    course.recorder.bodySize_write_le (course.recorder.withinDeclared declared bytes) true
  rw [writes.wrote] at grown
  exact (course.withRecorder written).isPaced_of_pay_ok paced writes.bucket grown payment

/-- What was paid for stays so until the next thing comes of the stream. -/
theorem isPaced_proceed {pauses : List Instant} {moment : Instant}
    (paused : ArePauses course.now pauses)
    (paced : course.recorder.IsPaced opened rate course.now)
    (comes : guard.await course.now (some (reached course.now pauses)) = .event moment)
    : (course.proceed moment pauses).recorder.IsPaced opened rate moment :=
  paced.mono (Clock.Guard.eq_of_await_event comes ▸ paused.onward.le)

/-- All that is recorded is paid for before the read goes on, or is complete. -/
theorem keeps_isPaced (guard : Clock.Guard) (declared : Option Nat) (opened : Instant) (rate : Nat)
    : Keeps guard declared
        (fun (course : Course Rat) pauses _ =>
          ArePauses course.now pauses ∧ course.recorder.IsPaced opened rate course.now)
        fun reading =>
          reading.ending = .complete → reading.recorder.IsPaced opened rate reading.now where
  late _ cut complete := absurd complete (interrupted_incomplete _ _ cut)
  stalls _ complete :=
    absurd complete (interrupted_incomplete _ _ (guard.await_none_ne_event _))
  ends := by
    rintro course pauses moment ⟨paused, paced⟩ comes -
    exact isPaced_proceed paused paced comes
  fails _ _ := nofun
  pause := by
    rintro course pauses nanos rest ⟨paused, paced⟩
    exact ⟨paused.withPause nanos, paced⟩
  further := by
    rintro course grown pauses moment bytes rest ⟨paused, paced⟩ comes absorbed
    have here := isPaced_proceed paused paced comes
    obtain ⟨-, rfl⟩ | ⟨written, writes, payment, -⟩ := cases_of_absorb_ok absorbed
    · exact ⟨.nothing _, here⟩
    · exact ⟨.nothing _, isPaced_of_writes _ here writes payment⟩
  last := by
    rintro course reading pauses moment bytes rest ⟨paused, paced⟩ comes absorbed complete
    have here := isPaced_proceed paused paced comes
    obtain ⟨written, ⟨why, -, rfl⟩ | ⟨writes, unpaid | ⟨paid, payment, -, rfl⟩⟩⟩ :=
      cases_of_absorb_error absorbed
    · cases complete
    · exact absurd complete (recorder_of_pay_error unpaid).2
    · exact isPaced_of_writes _ here writes payment

end Course

namespace Recorder

variable {recorder : Recorder Rat} {opened now : Instant} {rate : Nat}

/-- A complete read has paid for all that it has recorded. -/
theorem IsPaced.read (paced : recorder.IsPaced opened rate now) (cancelAt : Option Instant)
    (declared : Option Nat) (stream : Stream)
    : let reading := recorder.read now cancelAt declared stream
      reading.ending = .complete → reading.recorder.IsPaced opened rate reading.now := by
  apply (Course.keeps_isPaced _ declared opened rate).read
  · exact fun _ => nofun
  · exact fun _ _ => paced
  · exact fun _ => ⟨.nothing now, paced⟩

/-- A new recorder has paid for its body, which is empty. -/
theorem isPaced_start (opened : Instant) {limits : Limits} (bounded : 0 < limits.bytesPerSecond)
    (algorithm : Option DigestAlgorithm)
    : (start opened limits algorithm : Recorder Rat).IsPaced opened limits.bytesPerSecond
        opened := by
  have balanced :=
    TokenBucket.isBalanced_full opened limits.bytesPerSecond limits.bytesPerSecond
  have whole : max limits.bytesPerSecond 1 = limits.bytesPerSecond := Nat.max_eq_left bounded
  refine ⟨.perSecond opened limits.bytesPerSecond, if_pos bounded, ?_, ?_, balanced, ?_⟩
  · exact congrArg Nat.cast whole
  · exact congrArg Nat.cast whole
  · have free
        : (TokenBucket.perSecond opened limits.bytesPerSecond : TokenBucket Rat).debtWait = 0 :=
      (TokenBucket.debtWait_eq_zero_iff balanced.paced).mpr (Nat.cast_nonneg _)
    rw [TokenBucket.settled, free]
    exact Nat.le_refl opened

/-- Whatever is done with a recorder but reading a body leaves its tokens and an empty body. -/
theorem unread_perform {operation : Operation} (unread : operation.incoming? = none)
    (empty : recorder.bodySize = 0)
    : (recorder.perform operation).bucket = recorder.bucket
      ∧ (recorder.perform operation).bodySize = 0 := by
  cases operation with
  | envelope bytes => exact ⟨recorder.bucket_write bytes false, Nat.sub_self _⟩
  | body now cancelAt declared stream => cases unread
  | replay => exact ⟨rfl, empty⟩
  | close =>
      rw [perform, close]
      split
      · exact ⟨rfl, empty⟩
      · exact ⟨rfl, empty⟩

/-- So a recorder of which no body was read has still paid for it. -/
theorem IsPaced.performAll (paced : recorder.IsPaced opened rate now)
    (empty : recorder.bodySize = 0) (operations : List Operation)
    (unread : ∀ operation ∈ operations, operation.incoming? = none)
    : (recorder.performAll operations).IsPaced opened rate now := by
  induction operations generalizing recorder with
  | nil => exact paced
  | cons operation operations ih =>
      obtain ⟨first, others⟩ := List.forall_mem_cons.mp unread
      obtain ⟨same, empty'⟩ := unread_perform first empty
      obtain ⟨bucket, has, capacity, income, balanced, settled⟩ := paced
      refine ih ⟨bucket, same.trans has, capacity, income, ?_, settled⟩ empty' others
      rw [empty']
      exact empty ▸ balanced

end Recorder

-----------------------------------------------------------------------------------------
-- The bound
-----------------------------------------------------------------------------------------

/-- A first read that is complete, and whose last sleep lasted as long as was asked for, does not
end before the bytes of its body, but for those of one second, have come in at the rate since the
recorder was opened.
-/
theorem Recorder.le_seconds_of_complete (opened waited : Nat) {limits : Limits}
    (bounded : 0 < limits.bytesPerSecond) (algorithm : Option DigestAlgorithm)
    {operations : List Operation}
    (unread : ∀ operation ∈ operations, operation.incoming? = none) (cancelAt : Option Instant)
    (declared : Option Nat) (stream : Stream)
    : let recorder : Recorder Rat := (Recorder.start opened limits algorithm).performAll operations
      let reading := recorder.read (opened + waited) cancelAt declared stream
      (∀ bucket ∈ reading.recorder.bucket, bucket.SleepsOut)
      → reading.ending = .complete
      → ((reading.recorder.bodySize : Rat) - limits.bytesPerSecond) / limits.bytesPerSecond
        ≤ seconds opened reading.now := by
  intro recorder reading sleeps complete
  have begun := Recorder.isPaced_start opened bounded algorithm
  have paced := (begun.performAll rfl operations unread).mono (Nat.le_add_right opened waited)
  exact (paced.read cancelAt declared stream complete).le_seconds sleeps

/-- The rate bound in exact arithmetic. Whatever is done with a bucket that was created full, a zero
counting as one, and whatever the times, it never holds more than its capacity, and what it holds is
what the operations leave and time brings. Bytes that are taken are waited for until their debt has
come in, and not at all just if the bucket holds their tokens. Who takes them and waits as long as
is asked for, which every sleep does that is not too long for one, goes on at no instant by which
more was taken, these bytes among them, than the capacity and what has come in since the bucket was
created. So a first read that is complete takes the time of its bytes but for those of one second.
-/
theorem rate_bound
    : (∀ (created : Instant) (capacity rate : Nat) (operations : List BucketOperation)
        (bytes : Nat),
        let run : BucketRun Rat :=
          (BucketRun.start created capacity rate).performAll operations
        let most : Rat := (max capacity 1 : Nat)
        let income : Rat := (max rate 1 : Nat)
        run.IsRated created most income (BucketOperation.level most income operations) bytes)
      ∧ ∀ (opened waited : Nat) (limits : Limits) (algorithm : Option DigestAlgorithm)
          (operations : List Operation) (cancelAt : Option Instant) (declared : Option Nat)
          (stream : Stream),
          0 < limits.bytesPerSecond
          → (∀ operation ∈ operations, operation.incoming? = none)
          → let recorder : Recorder Rat :=
              (Recorder.start opened limits algorithm).performAll operations
            let reading := recorder.read (opened + waited) cancelAt declared stream
            (∀ bucket ∈ reading.recorder.bucket, bucket.SleepsOut)
            → reading.ending = .complete
            → ((reading.recorder.bodySize : Rat) - limits.bytesPerSecond) / limits.bytesPerSecond
              ≤ seconds opened reading.now := by
  refine ⟨fun created capacity rate operations bytes => ?_, ?_⟩
  · exact (BucketRun.isKept_performAll created capacity rate operations).isRated bytes
  · intro opened waited limits algorithm operations cancelAt declared stream bounded unread
    exact Recorder.le_seconds_of_complete opened waited bounded algorithm unread cancelAt declared
      stream

/-- A bucket of four bytes that is emptied holds three after a second and a half at two bytes a
second, which are not waited for then, while four are. A chunk of five bytes at that rate takes the
second and a half that its last three bytes do.
-/
theorem rate_bound_overdrawn
    : let run : BucketRun Rat :=
        (BucketRun.start 0 4 2).performAll [.acquire 4, .advance 1500000000]
      let operations : List Operation := [.envelope [72], .replay]
      let recorder : Recorder Rat := (Recorder.start 7 ⟨0, none, 2⟩ none).performAll operations
      let reading := recorder.read (7 + 1) none none [.chunk [1, 2, 3, 4, 5]]
      (run.bucket.acquire run.now 3).1 = run.now
      ∧ (run.bucket.acquire run.now 4).1 ≠ run.now
      ∧ (∀ operation ∈ operations, operation.incoming? = none)
      ∧ (∀ bucket ∈ reading.recorder.bucket, bucket.SleepsOut)
      ∧ reading.ending = .complete
      ∧ reading.recorder.bodySize = 5
      ∧ 3 / 2 ≤ seconds 7 reading.now := by
  intro run operations recorder reading
  have unread : ∀ operation ∈ operations, operation.incoming? = none := by
    simp [operations, Operation.incoming?]
  have complete : reading.ending = .complete := by decide +kernel
  have size : reading.recorder.bodySize = 5 := by decide +kernel
  have sleeps : ∀ bucket ∈ reading.recorder.bucket, bucket.SleepsOut := by decide +kernel
  obtain ⟨buckets, reads⟩ := rate_bound
  have level
      : BucketOperation.level (max 4 1 : Nat) (max 2 1 : Nat) [.acquire 4, .advance 1500000000]
        = 3 := by
    decide +kernel
  have three := (buckets 0 4 2 [.acquire 4, .advance 1500000000] 3).atOnce
  have four := (buckets 0 4 2 [.acquire 4, .advance 1500000000] 4).atOnce
  rw [level] at three four
  have bound
      : ((reading.recorder.bodySize : Rat) - (2 : Nat)) / (2 : Nat) ≤ seconds 7 reading.now :=
    reads 7 1 ⟨0, none, 2⟩ none operations none none _ (by decide) unread sleeps complete
  rw [size] at bound
  exact ⟨three.mpr (by norm_num), mt four.mp (by norm_num), unread, sleeps, complete, size,
    le_trans (by norm_num) bound⟩

end WebHarvest.Recording
