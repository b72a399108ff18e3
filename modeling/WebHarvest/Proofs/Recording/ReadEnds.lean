import WebHarvest.Proofs.Recording.Pulling

/-! Reading a body comes to an end unless the body stalls and nothing cuts the wait short, or the
deadline cannot be represented.
-/

namespace WebHarvest.Recording

open Clock (Instant)

/-- Whether a stream comes to a stall before it fails or ends. -/
def Stream.stalls : Stream → Bool
  | [] => false
  | .chunk _ :: rest => stalls rest
  | .pause _ :: rest => stalls rest
  | .failure _ :: _ => false
  | .stall :: _ => true

namespace Course

variable {α : Type}

theorem wait_of_interrupted_stuck {course : Course α} {pauses : List Instant}
    {wait : Clock.Wait} {why : Stuck}
    (stuck : (course.interrupted pauses wait).ending = .stuck why)
    : wait = .never ∧ why = .endless := by
  cases wait with
  | never =>
      cases stuck
      exact ⟨rfl, rfl⟩
  | event moment => cases stuck
  | cancelled moment => cases stuck
  | expired moment => cases stuck

/-- A wait for something that comes at some instant does not get a reading stuck. -/
theorem interrupted_of_event_ne_stuck (course : Course α) (pauses : List Instant)
    (guard : Clock.Guard) (now moment : Instant) (why : Stuck)
    : (course.interrupted pauses (guard.await now (some moment))).ending ≠ .stuck why := by
  intro stuck
  obtain ⟨-, -, none⟩ := Clock.Guard.await_never (wait_of_interrupted_stuck stuck).1
  cases none

variable [Tokens α]

/-- Paying for bytes does not get a reading stuck, since it waits for an instant that comes. -/
theorem pay_ne_stuck {course : Course α} {guard : Clock.Guard} {count : Nat}
    {reading : Reading α} (payment : course.pay guard count = .error reading) (why : Stuck)
    : reading.ending ≠ .stuck why := by
  obtain ⟨bucket, due, -, -, rfl⟩ := cases_of_pay_error payment
  exact interrupted_of_event_ne_stuck _ _ _ _ _ _

/-- So does a chunk, which has only its payment to wait for. -/
theorem absorb_ne_stuck {course : Course α} {guard : Clock.Guard} {declared : Option Nat}
    {bytes : Bytes} {reading : Reading α}
    (absorbed : course.absorb guard declared bytes = .error reading) (why : Stuck)
    : reading.ending ≠ .stuck why := by
  obtain ⟨written, ⟨reason, -, rfl⟩ | ⟨-, payment | ⟨paid, -, -, rfl⟩⟩⟩ :=
    cases_of_absorb_error absorbed
  · exact nofun
  · exact pay_ne_stuck payment why
  · exact nofun

/-- Reading on is stuck only at a stall that neither a cancellation nor a deadline cuts short:
whatever else a stream does comes at some instant.
-/
theorem keeps_stalls (guard : Clock.Guard) (declared : Option Nat) (stream : Stream)
    : Keeps guard declared (fun (_ : Course α) _ rest => rest.stalls = stream.stalls)
        fun reading =>
          ∀ why,
            reading.ending = .stuck why
            → why = .endless
              ∧ stream.stalls = true
              ∧ guard.cancelAt = none
              ∧ guard.deadline = none where
  late _ _ _ stuck := absurd stuck (interrupted_of_event_ne_stuck _ _ _ _ _ _)
  stalls same why stuck := by
    obtain ⟨endless, rfl⟩ := wait_of_interrupted_stuck stuck
    obtain ⟨uncancelled, unbounded, -⟩ := Clock.Guard.await_never endless
    exact ⟨rfl, same.symm, uncancelled, unbounded⟩
  ends _ _ _ := nofun
  fails _ _ _ := nofun
  pause same := same
  further same _ _ := same
  last _ _ absorbed why stuck := absurd stuck (absorb_ne_stuck absorbed why)

end Course

namespace Recorder

variable {α : Type} [Tokens α]

/-- A read whose deadline cannot be represented is stuck with that at once. -/
theorem read_of_isOverdue {recorder : Recorder α} (overdue : recorder.IsOverdue) (now : Instant)
    (cancelAt : Option Instant) (declared : Option Nat) (stream : Stream)
    : (recorder.read now cancelAt declared stream).ending = .stuck .deadlineUnrepresentable := by
  rw [read, if_pos (recorder.isOverdue_iff.mp overdue)]
  rfl

/-- Any other read is stuck only at a stall that nothing cuts short. -/
theorem read_of_stuck {recorder : Recorder α} {now : Instant} {cancelAt : Option Instant}
    {declared : Option Nat} {stream : Stream} {why : Stuck}
    (stuck : (recorder.read now cancelAt declared stream).ending = .stuck why)
    : (why = .deadlineUnrepresentable ∧ recorder.IsOverdue)
      ∨ (why = .endless
        ∧ stream.stalls = true
        ∧ cancelAt = none
        ∧ recorder.deadline? = none) := by
  by_cases overdue : recorder.IsOverdue
  · rw [read_of_isOverdue overdue] at stuck
    cases stuck
    exact .inl ⟨rfl, overdue⟩
  · right
    exact (Course.keeps_stalls ⟨cancelAt, recorder.deadline?⟩ declared stream).read
      (fun late => absurd late overdue) (fun _ => nofun) (fun _ => rfl) why stuck

end Recorder

end WebHarvest.Recording
