import WebHarvest.Proofs.Recording.Pulling

/-! A cancellation changes nothing of what is over before it: a body that has been read by then is
read in the same way if the cancellation comes later or not at all.
-/

namespace WebHarvest

namespace Clock

-----------------------------------------------------------------------------------------
-- Waits
-----------------------------------------------------------------------------------------

variable {instant : Instant} {later : Option Instant}

/-- A wait that is cancelled by an instant ends in the same way if it is not cancelled by then,
unless the cancellation ends it, which it does not before it is due.
-/
theorem Guard.await_cancelled_or_same (noEarlier : ∀ other ∈ later, instant ≤ other)
    (deadline : Option Instant) (now : Instant) (event : Option Instant)
    : (∃ moment,
        Guard.await ⟨some instant, deadline⟩ now event = .cancelled moment ∧ instant ≤ moment)
      ∨ Guard.await ⟨some instant, deadline⟩ now event
        = Guard.await ⟨later, deadline⟩ now event := by
  simp only [await, Option.map_some]
  split
  · exact .inl ⟨_, rfl, Nat.le_max_right now instant⟩
  · rename_i unheard
    right
    cases later with
    | none => rfl
    | some other =>
        have comes : max now instant ≤ max now other :=
          Nat.max_le.mpr ⟨Nat.le_max_left now other,
            Nat.le_trans (noEarlier other rfl) (Nat.le_max_right now other)⟩
        rw [Option.map_some]
        dsimp only
        rw [if_neg]
        intro heard
        apply unheard
        simp only [Bool.and_eq_true] at heard ⊢
        exact ⟨isBy_of_le comes heard.1, isBy_of_le comes heard.2⟩

end Clock

namespace Recording

open Clock (Guard Instant)

-----------------------------------------------------------------------------------------
-- Readings
-----------------------------------------------------------------------------------------

namespace Course

variable {α : Type} {instant : Instant} {later : Option Instant}

/-- A reading that a cancellation ends does not end before the cancellation. -/
theorem le_now_interrupted (course : Course α) (pauses : List Instant) {wait : Clock.Wait}
    (cancelled : ∃ moment, wait = .cancelled moment ∧ instant ≤ moment)
    : instant ≤ (course.interrupted pauses wait).now := by
  obtain ⟨moment, rfl, late⟩ := cancelled
  exact Nat.le_trans late (Nat.le_of_eq (course.now_breakOff moment pauses).symm)

variable [Tokens α] (noEarlier : ∀ other ∈ later, instant ≤ other) (deadline : Option Instant)

include noEarlier in
/-- Bytes are paid for in the same way, by cases of the two waits that this takes. -/
theorem pay_cancelled_or_same (course : Course α) (count : Nat)
    : (∃ reading,
        course.pay ⟨some instant, deadline⟩ count = .error reading ∧ instant ≤ reading.now)
      ∨ course.pay ⟨some instant, deadline⟩ count = course.pay ⟨later, deadline⟩ count := by
  cases paced : course.recorder.bucket with
  | none => simp [pay, paced]
  | some bucket =>
      simp only [pay, paced]
      rcases Guard.await_cancelled_or_same noEarlier deadline course.now (some course.now) with
        ⟨moment, cut, late⟩ | same
      · rw [cut]
        exact .inl ⟨_, rfl, course.le_now_interrupted [] ⟨moment, rfl, late⟩⟩
      · rw [same]
        split
        · rcases Guard.await_cancelled_or_same noEarlier deadline course.now
              (some (bucket.acquire course.now count).1) with
            ⟨moment, cut, late⟩ | same
          · rw [cut]
            exact .inl ⟨_, rfl, le_now_interrupted _ [] ⟨moment, rfl, late⟩⟩
          · rw [same]
            exact .inr rfl
        · exact .inr rfl

include noEarlier in
/-- A chunk is recorded and paid for in the same way. -/
theorem absorb_cancelled_or_same (course : Course α) (declared : Option Nat) (bytes : Bytes)
    : (∃ reading,
        course.absorb ⟨some instant, deadline⟩ declared bytes = .error reading
        ∧ instant ≤ reading.now)
      ∨ course.absorb ⟨some instant, deadline⟩ declared bytes
        = course.absorb ⟨later, deadline⟩ declared bytes := by
  unfold absorb
  split
  · exact .inr rfl
  · dsimp only
    generalize course.recorder.write _ true = written
    obtain ⟨recorder, why | done⟩ := written
    · exact .inr rfl
    · dsimp only
      rcases pay_cancelled_or_same noEarlier deadline { course with recorder }
          (course.recorder.withinDeclared declared bytes).length with
        ⟨reading, cut, late⟩ | same
      · rw [cut]
        exact .inl ⟨reading, rfl, late⟩
      · rw [same]
        exact .inr rfl

omit [Tokens α] in
include noEarlier in
/-- A wait ends in the same way if what comes behind it does. -/
theorem awaiting_cancelled_or_same (course : Course α) (pauses : List Instant)
    (event : Option Instant) {next again : Instant → Reading α}
    (further : ∀ moment, instant ≤ (next moment).now ∨ next moment = again moment)
    : instant ≤ (course.awaiting ⟨some instant, deadline⟩ pauses event next).now
      ∨ course.awaiting ⟨some instant, deadline⟩ pauses event next
        = course.awaiting ⟨later, deadline⟩ pauses event again := by
  unfold awaiting
  rcases Guard.await_cancelled_or_same noEarlier deadline course.now event with
    ⟨moment, cut, late⟩ | same
  · rw [cut]
    exact .inl (course.le_now_interrupted pauses ⟨moment, rfl, late⟩)
  · rw [same]
    split
    · exact further _
    · exact .inr rfl

include noEarlier in
/-- Reading on does so, by induction on the stream: the first wait that the cancellation ends is the
last one.
-/
theorem pull_cancelled_or_same (declared : Option Nat) (course : Course α)
    (pauses : List Instant) (stream : Stream)
    : instant ≤ (course.pull ⟨some instant, deadline⟩ declared pauses stream).now
      ∨ course.pull ⟨some instant, deadline⟩ declared pauses stream
        = course.pull ⟨later, deadline⟩ declared pauses stream := by
  induction stream generalizing course pauses with
  | nil =>
      simp only [pull_nil]
      exact course.awaiting_cancelled_or_same noEarlier deadline pauses _ fun _ => .inr rfl
  | cons event rest ih =>
      cases event with
      | stall =>
          simp only [pull_stall]
          exact course.awaiting_cancelled_or_same noEarlier deadline pauses _ fun _ => .inr rfl
      | pause nanos =>
          simp only [pull_pause]
          exact ih course _
      | failure why =>
          simp only [pull_failure]
          exact course.awaiting_cancelled_or_same noEarlier deadline pauses _ fun _ => .inr rfl
      | chunk bytes =>
          simp only [pull_chunk]
          refine course.awaiting_cancelled_or_same noEarlier deadline pauses _ fun moment => ?_
          rcases absorb_cancelled_or_same noEarlier deadline (course.proceed moment pauses)
              declared bytes with
            ⟨reading, cut, late⟩ | same
          · rw [cut]
            exact .inl late
          · rw [same]
            split
            · exact ih _ []
            · exact .inr rfl

end Course

/-- A body that is read by the instant of a cancellation is read in the same way if the cancellation
comes later or not at all.
-/
theorem Recorder.read_cancelled_or_same {α : Type} [Tokens α] {instant : Instant}
    {later : Option Instant} (noEarlier : ∀ other ∈ later, instant ≤ other)
    (recorder : Recorder α) (now : Instant) (declared : Option Nat) (stream : Stream)
    : instant ≤ (recorder.read now (some instant) declared stream).now
      ∨ recorder.read now (some instant) declared stream
        = recorder.read now later declared stream := by
  unfold read
  dsimp only
  split
  · exact .inr rfl
  · split
    · exact .inr rfl
    · exact Course.pull_cancelled_or_same noEarlier _ declared _ [] stream

end Recording

end WebHarvest
