import WebHarvest.Proofs.Clock.Delay
import WebHarvest.Proofs.Recording.Pulling

/-! Reading a body does not depend on when it begins: some milliseconds later the same bytes come to
the same end, as many later.
-/

namespace WebHarvest

namespace Clock

/-- The same wake some milliseconds later. -/
def Wake.delayed (ticks : Nat) (wake : Wake) : Wake where
  moment := Clock.delayed ticks wake.moment
  since := wake.since.map (Clock.delayed ticks)

theorem wakesAlong_delayed (ticks : Nat) (since moments : List Instant)
    : wakesAlong (since.map (delayed ticks)) (moments.map (delayed ticks))
      = (wakesAlong since moments).map (Wake.delayed ticks) := by
  induction moments with
  | nil => rfl
  | cons moment earlier ih =>
      simp only [List.map_cons, wakesAlong, ih, Wake.delayed, List.map_append]

end Clock

namespace Recording

open Clock (Instant Wake)

variable {α : Type} (ticks : Nat)

-----------------------------------------------------------------------------------------
-- Recorders
-----------------------------------------------------------------------------------------

/-- A bucket that was counted some milliseconds later. -/
def TokenBucket.delayed (bucket : TokenBucket α) : TokenBucket α :=
  { bucket with counted := Clock.delayed ticks bucket.counted }

theorem TokenBucket.acquire_delayed [Tokens α] (bucket : TokenBucket α) (now : Instant)
    (bytes : Nat)
    : (bucket.delayed ticks).acquire (Clock.delayed ticks now) bytes
      = (Clock.delayed ticks (bucket.acquire now bytes).1,
          (bucket.acquire now bytes).2.delayed ticks) := by
  have refilled
      : (bucket.delayed ticks).refill (Clock.delayed ticks now)
        = (bucket.refill now).delayed ticks := by
    simp only [refill, TokenBucket.delayed, Clock.delayed_sub_delayed]
  have reserved
      : (bucket.delayed ticks).reserve (Clock.delayed ticks now) bytes
        = ((bucket.reserve now bytes).1, (bucket.reserve now bytes).2.delayed ticks) := by
    rw [reserve, refilled]
    rfl
  simp only [acquire, reserved]
  split
  · rfl
  · rw [Clock.wake_delayed]

/-- A recorder that was started some milliseconds later. -/
def Recorder.delayed (recorder : Recorder α) : Recorder α :=
  { recorder with
    started := Clock.delayed ticks recorder.started
    bucket := recorder.bucket.map (TokenBucket.delayed ticks) }

namespace Recorder

theorem start_delayed [Tokens α] (now : Instant) (limits : Limits)
    (algorithm : Option DigestAlgorithm)
    : (start (Clock.delayed ticks now) limits algorithm : Recorder α)
      = (start now limits algorithm).delayed ticks := by
  unfold start Recorder.delayed
  split
  · rfl
  · rfl

theorem deadline?_delayed (recorder : Recorder α)
    : (recorder.delayed ticks).deadline? = recorder.deadline?.map (Clock.delayed ticks) := by
  cases timeout : recorder.limits.timeout with
  | none => simp only [deadline?, Recorder.delayed, timeout, Option.map_none]
  | some nanos =>
      simp only [deadline?, Recorder.delayed, timeout, Option.map_some, Clock.delayed_add]

theorem write_delayed (recorder : Recorder α) (bytes : Bytes) (digested : Bool)
    : (recorder.delayed ticks).write bytes digested
      = ((recorder.write bytes digested).1.delayed ticks, (recorder.write bytes digested).2) := by
  have isOpen : (recorder.delayed ticks).isOpen = recorder.isOpen := rfl
  rw [write, write, isOpen]
  split
  · rfl
  · rfl

theorem recordEnvelope_delayed (recorder : Recorder α) (envelope : Bytes)
    : (recorder.delayed ticks).recordEnvelope envelope
      = ((recorder.recordEnvelope envelope).1.delayed ticks,
          (recorder.recordEnvelope envelope).2) := by
  simp only [recordEnvelope, write_delayed]
  rfl

theorem close_delayed (recorder : Recorder α)
    : (recorder.delayed ticks).close = recorder.close.delayed ticks := by
  have isOpen : (recorder.delayed ticks).isOpen = recorder.isOpen := rfl
  rw [close, close, isOpen]
  split
  · rfl
  · rfl

end Recorder

-----------------------------------------------------------------------------------------
-- Courses
-----------------------------------------------------------------------------------------

theorem reached_delayed (now : Instant) (pauses : List Instant)
    : reached (Clock.delayed ticks now) (pauses.map (Clock.delayed ticks))
      = Clock.delayed ticks (reached now pauses) := by
  cases pauses with
  | nil => rfl
  | cons last earlier => rfl

theorem withPause_delayed (now : Instant) (pauses : List Instant) (nanos : Nat)
    : withPause (Clock.delayed ticks now) (pauses.map (Clock.delayed ticks)) nanos
      = (withPause now pauses nanos).map (Clock.delayed ticks) := by
  simp only [withPause, reached_delayed, Clock.wake_delayed, beq_iff_eq, Clock.delayed_inj]
  split
  · rfl
  · rfl

/-- A course that began some milliseconds later. -/
def Course.delayed (course : Course α) : Course α where
  recorder := course.recorder.delayed ticks
  now := Clock.delayed ticks course.now
  line := course.line.map (Clock.delayed ticks)
  wakes := course.wakes.map (Wake.delayed ticks)

/-- A reading that began some milliseconds later. -/
def Reading.delayed (reading : Reading α) : Reading α :=
  (reading.toCourse.delayed ticks).finish reading.ending

namespace Course

theorem proceed_delayed (course : Course α) (moment : Instant) (pauses : List Instant)
    : (course.delayed ticks).proceed (Clock.delayed ticks moment)
        (pauses.map (Clock.delayed ticks))
      = (course.proceed moment pauses).delayed ticks := by
  simp only [proceed, Course.delayed, Clock.wakesAlong_delayed, List.map_append]

theorem breakOff_delayed (course : Course α) (moment : Instant) (pauses : List Instant)
    : (course.delayed ticks).breakOff (Clock.delayed ticks moment)
        (pauses.map (Clock.delayed ticks))
      = (course.breakOff moment pauses).delayed ticks := by
  have before
      : ((Clock.wakesAlong course.line pauses).map (Wake.delayed ticks)).filter
          (·.moment < Clock.delayed ticks moment)
        = ((Clock.wakesAlong course.line pauses).filter (·.moment < moment)).map
            (Wake.delayed ticks) := by
    rw [List.filter_map]
    congr 2
    funext wake
    simp only [Function.comp_apply, Wake.delayed, Clock.delayed_lt_delayed]
  by_cases same : moment = course.now
  · simp [breakOff, Course.delayed, same]
  · simp only [breakOff, Course.delayed, beq_iff_eq, Clock.delayed_inj, same, if_false,
      Clock.wakesAlong_delayed, before]
    simp only [List.map_cons, List.map_append, List.cons_append, Wake.delayed]

theorem interrupted_delayed (course : Course α) (pauses : List Instant) (wait : Clock.Wait)
    : (course.delayed ticks).interrupted (pauses.map (Clock.delayed ticks)) (wait.delayed ticks)
      = (course.interrupted pauses wait).delayed ticks := by
  cases wait with
  | event moment =>
      simp only [Clock.Wait.delayed, interrupted, proceed_delayed]
      rfl
  | cancelled moment =>
      simp only [Clock.Wait.delayed, interrupted, breakOff_delayed]
      rfl
  | expired moment =>
      have elapsed
          : Clock.delayed ticks moment - (course.delayed ticks).recorder.started
            = moment - course.recorder.started :=
        Clock.delayed_sub_delayed ticks _ _
      simp only [Clock.Wait.delayed, interrupted, breakOff_delayed, elapsed]
      rfl
  | never =>
      have ends := course.proceed_delayed ticks course.now pauses
      simp only [Clock.Wait.delayed, interrupted, Reading.delayed, ← ends]
      rfl

variable [Tokens α]

/-- Paying for bytes, the wait for it is as much later. -/
theorem pay_delayed (course : Course α) (guard : Clock.Guard) (count : Nat)
    : (course.delayed ticks).pay (guard.delayed ticks) count
      = match course.pay guard count with
        | .ok paid => .ok (paid.delayed ticks)
        | .error reading => .error (reading.delayed ticks) := by
  cases paced : course.recorder.bucket with
  | none => simp [pay, Course.delayed, Recorder.delayed, paced]
  | some bucket =>
      have bucketed
          : (course.delayed ticks).recorder.bucket = some (bucket.delayed ticks) := by
        simp [Course.delayed, Recorder.delayed, paced]
      have now : (course.delayed ticks).now = Clock.delayed ticks course.now := rfl
      have waits (due : Instant) := guard.await_delayed ticks course.now (some due)
      simp only [Option.map_some] at waits
      simp only [pay, bucketed, paced, now, TokenBucket.acquire_delayed, waits]
      let charged : Course α :=
        { course with
          recorder :=
            { course.recorder with bucket := some (bucket.acquire course.now count).2 } }
      cases guard.await course.now (some course.now) with
      | event moment =>
          cases guard.await course.now (some (bucket.acquire course.now count).1) with
          | event moment => exact congrArg Except.ok (charged.breakOff_delayed ticks moment [])
          | cancelled moment | expired moment | never =>
              exact congrArg Except.error (charged.interrupted_delayed ticks [] _)
      | cancelled moment | expired moment | never =>
          exact congrArg Except.error (course.interrupted_delayed ticks [] _)

/-- Of a chunk the same is recorded, and the wait for it to be paid is as much later. -/
theorem absorb_delayed (course : Course α) (guard : Clock.Guard) (declared : Option Nat)
    (bytes : Bytes)
    : (course.delayed ticks).absorb (guard.delayed ticks) declared bytes
      = match course.absorb guard declared bytes with
        | .ok grown => .ok (grown.delayed ticks)
        | .error reading => .error (reading.delayed ticks) := by
  have written
      : (course.delayed ticks).recorder.write (course.recorder.withinDeclared declared bytes) true
        = _ :=
    course.recorder.write_delayed ticks _ true
  have within
      : (course.delayed ticks).recorder.withinDeclared declared bytes
        = course.recorder.withinDeclared declared bytes :=
    rfl
  unfold absorb
  split
  · rfl
  · dsimp only
    rw [within, written]
    generalize course.recorder.write _ true = written
    obtain ⟨recorder, why | done⟩ := written
    · rfl
    · have grown
          : ({ course.delayed ticks with recorder := recorder.delayed ticks } : Course α)
            = Course.delayed ticks { course with recorder } :=
        rfl
      dsimp only
      rw [grown, pay_delayed]
      cases pay { course with recorder } guard _ with
      | error reading => rfl
      | ok paid =>
          have filled
              : (paid.delayed ticks).recorder.isFilled declared
                = paid.recorder.isFilled declared :=
            rfl
          dsimp only
          rw [filled]
          split
          · rfl
          · rfl

omit [Tokens α] in
/-- A wait comes to the same, as much later, if what comes behind it does. -/
theorem awaiting_delayed (course : Course α) (guard : Clock.Guard) (pauses : List Instant)
    (event : Option Instant) {next late : Instant → Reading α}
    (further : ∀ moment, late (Clock.delayed ticks moment) = (next moment).delayed ticks)
    : (course.delayed ticks).awaiting (guard.delayed ticks) (pauses.map (Clock.delayed ticks))
        (event.map (Clock.delayed ticks)) late
      = (course.awaiting guard pauses event next).delayed ticks := by
  have waits
      : (guard.delayed ticks).await (course.delayed ticks).now
          (event.map (Clock.delayed ticks))
        = (guard.await course.now event).delayed ticks :=
    guard.await_delayed ticks course.now event
  unfold awaiting
  rw [waits]
  cases guard.await course.now event with
  | event moment => exact further moment
  | cancelled moment | expired moment | never => exact course.interrupted_delayed ticks pauses _

/-- Reading on does not depend on when it is done, by induction on the stream. -/
theorem pull_delayed (guard : Clock.Guard) (declared : Option Nat) (course : Course α)
    (pauses : List Instant) (stream : Stream)
    : (course.delayed ticks).pull (guard.delayed ticks) declared
        (pauses.map (Clock.delayed ticks)) stream
      = (course.pull guard declared pauses stream).delayed ticks := by
  have comes (course : Course α) (pauses : List Instant)
      : some (reached (course.delayed ticks).now (pauses.map (Clock.delayed ticks)))
        = (some (reached course.now pauses)).map (Clock.delayed ticks) :=
    congrArg some (reached_delayed ticks course.now pauses)
  induction stream generalizing course pauses with
  | nil =>
      rw [pull_nil, pull_nil, comes]
      refine awaiting_delayed ticks course guard pauses _ fun moment => ?_
      rw [proceed_delayed]
      rfl
  | cons event rest ih =>
      cases event with
      | stall =>
          rw [pull_stall, pull_stall]
          refine awaiting_delayed ticks course guard pauses none fun moment => ?_
          exact course.interrupted_delayed ticks pauses (.event moment)
      | pause nanos =>
          have paused := withPause_delayed ticks course.now pauses nanos
          rw [pull_pause, pull_pause, ← ih]
          exact congrArg (pull _ declared _ · rest) paused
      | failure why =>
          rw [pull_failure, pull_failure, comes]
          refine awaiting_delayed ticks course guard pauses _ fun moment => ?_
          rw [proceed_delayed]
          rfl
      | chunk bytes =>
          rw [pull_chunk, pull_chunk, comes]
          refine awaiting_delayed ticks course guard pauses _ fun moment => ?_
          rw [proceed_delayed, absorb_delayed]
          cases (course.proceed moment pauses).absorb guard declared bytes with
          | ok grown => exact ih grown []
          | error reading => rfl

end Course

/-- A read does not depend on when it begins, unless its deadline is too late to be represented. -/
theorem Recorder.read_delayed [Tokens α] (recorder : Recorder α) (now : Instant)
    (cancelAt : Option Instant) (declared : Option Nat) (stream : Stream)
    : let late :=
        (recorder.delayed ticks).read (Clock.delayed ticks now)
          (cancelAt.map (Clock.delayed ticks)) declared stream
      late = (recorder.read now cancelAt declared stream).delayed ticks
      ∨ late.ending = .stuck .deadlineUnrepresentable := by
  have filled : (recorder.delayed ticks).isFilled declared = recorder.isFilled declared := rfl
  simp only [read, filled]
  cases late : (recorder.delayed ticks).deadline?.any (!Clock.isRepresentable ·) with
  | true => exact .inr rfl
  | false =>
      -- The earlier deadline can be represented if the later one can.
      have inRange : recorder.deadline?.any (!Clock.isRepresentable ·) = false := by
        rw [deadline?_delayed] at late
        cases deadline : recorder.deadline? with
        | none => rfl
        | some instant =>
            simp only [deadline, Option.map_some, Option.any_some, Bool.not_eq_false'] at late ⊢
            exact Clock.isRepresentable_of_delayed ticks late
      rw [inRange, if_neg Bool.false_ne_true, if_neg Bool.false_ne_true, deadline?_delayed]
      left
      split
      · rfl
      · exact Course.pull_delayed ticks ⟨cancelAt, recorder.deadline?⟩ declared
          ⟨recorder, now, [], []⟩ [] stream

end Recording

end WebHarvest
