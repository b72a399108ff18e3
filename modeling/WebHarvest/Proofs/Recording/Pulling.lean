import WebHarvest.Proofs.Clock.Waits
import WebHarvest.Proofs.Recording.Payments

/-! Reading on step by step. A chunk is recorded and paid for in one step, and what every step keeps
of a course leads to the end of its reading.
-/

namespace WebHarvest.Recording

open Clock (Guard Instant)

/-- Where pauses that a stream has made since an instant have led to, the last one first. -/
def reached (now : Instant) (pauses : List Instant) : Instant :=
  pauses.head?.getD now

/-- The pauses of a stream with one more of them, unless that takes no time. -/
def withPause (now : Instant) (pauses : List Instant) (nanos : Nat) : List Instant :=
  let moment := Clock.wake (reached now pauses) nanos
  if moment == reached now pauses then pauses else moment :: pauses

/-- The bytes of a chunk that are within the declared length are written, with some result. -/
structure Recorder.Writes {α : Type} (recorder : Recorder α) (declared : Option Nat)
    (bytes : Bytes) (written : Recorder α) (result : Except RecordError Unit)
    : Prop where
  nonempty : bytes ≠ []
  wrote : recorder.write (recorder.withinDeclared declared bytes) true = (written, result)

/-- The deadline of a recorder cannot be represented. -/
def Recorder.IsOverdue {α : Type} (recorder : Recorder α) : Prop :=
  ∃ deadline ∈ recorder.deadline?, Clock.isRepresentable deadline = false

theorem Recorder.isOverdue_iff {α : Type} (recorder : Recorder α)
    : recorder.IsOverdue ↔ recorder.deadline?.any (!Clock.isRepresentable ·) = true := by
  simp [IsOverdue, Option.any_eq_true]

namespace Course

variable {α : Type}

-----------------------------------------------------------------------------------------
-- Steps
-----------------------------------------------------------------------------------------

/-- What comes of a wait for an event: it goes on when that comes, unless something cuts the wait
short.
-/
def awaiting (course : Course α) (guard : Guard) (pauses : List Instant) (event : Option Instant)
    (next : Instant → Reading α)
    : Reading α :=
  match guard.await course.now event with
  | .event moment => next moment
  | cut => course.interrupted pauses cut

/-- By cases of how the wait ends. -/
theorem of_awaiting {course : Course α} {guard : Guard} {pauses : List Instant}
    {event : Option Instant} {next : Instant → Reading α} {Post : Reading α → Prop}
    (goesOn : ∀ moment, guard.await course.now event = .event moment → Post (next moment))
    (cut
      : (∀ moment, guard.await course.now event ≠ .event moment)
        → Post (course.interrupted pauses (guard.await course.now event)))
    : Post (course.awaiting guard pauses event next) := by
  unfold awaiting
  split
  · rename_i comes
    exact goesOn _ comes
  · rename_i late
    exact cut late

variable [Tokens α]

/-- Records a chunk and pays for it: the course to go on with, or the reading that ends there. -/
def absorb (course : Course α) (guard : Clock.Guard) (declared : Option Nat) (bytes : Bytes)
    : Except (Reading α) (Course α) :=
  if bytes.isEmpty then .ok course
  else
    let kept := course.recorder.withinDeclared declared bytes
    let (recorder, written) := course.recorder.write kept true
    match written with
    | .error error => .error ({ course with recorder }.finish (.failed error))
    | .ok () =>
      match { course with recorder }.pay guard kept.length with
      | .error reading => .error reading
      | .ok paid =>
        if paid.recorder.isFilled declared then .error (paid.finish .complete) else .ok paid

section

variable (guard : Guard) (declared : Option Nat) (course : Course α) (pauses : List Instant)

theorem pull_nil
    : course.pull guard declared pauses []
      = course.awaiting guard pauses (some (reached course.now pauses))
          fun moment => (course.proceed moment pauses).finish .complete := by
  rw [pull]
  rfl

theorem pull_stall (rest : Stream)
    : course.pull guard declared pauses (.stall :: rest)
      = course.awaiting guard pauses none
          fun moment => course.interrupted pauses (.event moment) := by
  rw [pull]
  exact of_awaiting (fun moment comes => by rw [comes]) fun _ => rfl

theorem pull_pause (nanos : Nat) (rest : Stream)
    : course.pull guard declared pauses (.pause nanos :: rest)
      = course.pull guard declared (withPause course.now pauses nanos) rest := by
  rw [pull]
  rfl

theorem pull_failure (why : String) (rest : Stream)
    : course.pull guard declared pauses (.failure why :: rest)
      = course.awaiting guard pauses (some (reached course.now pauses))
          fun moment => (course.proceed moment pauses).finish (.failed (.stream why)) := by
  rw [pull]
  rfl

/-- A chunk that comes is recorded and paid for before reading goes on. -/
theorem pull_chunk (bytes : Bytes) (rest : Stream)
    : course.pull guard declared pauses (.chunk bytes :: rest)
      = course.awaiting guard pauses (some (reached course.now pauses)) fun moment =>
          match (course.proceed moment pauses).absorb guard declared bytes with
          | .ok course => course.pull guard declared [] rest
          | .error reading => reading := by
  rw [pull, awaiting, reached]
  cases guard.await course.now (some (pauses.head?.getD course.now)) with
  | event moment =>
      dsimp only
      generalize course.proceed moment pauses = course
      unfold absorb
      split
      · rfl
      · dsimp only
        generalize course.recorder.write _ true = written
        obtain ⟨recorder, why | done⟩ := written
        · rfl
        · dsimp only
          cases pay { course with recorder } guard _ with
          | error reading => rfl
          | ok paid =>
              dsimp only
              split
              · rfl
              · rfl
  | cancelled moment | expired moment | never => rfl

end

/-- The course after its recorder has written something. -/
def withRecorder (course : Course α) (recorder : Recorder α) : Course α :=
  { course with recorder }

variable {course : Course α} {guard : Guard} {declared : Option Nat} {bytes : Bytes}

/-- A chunk behind which reading goes on is empty, or was written and paid for and does not fill the
body.
-/
theorem cases_of_absorb_ok {grown : Course α}
    (absorbed : course.absorb guard declared bytes = .ok grown)
    : (bytes = [] ∧ grown = course)
      ∨ ∃ written,
          course.recorder.Writes declared bytes written (.ok ())
          ∧ (course.withRecorder written).pay guard
              (course.recorder.withinDeclared declared bytes).length
            = .ok grown
          ∧ grown.recorder.isFilled declared = false := by
  unfold absorb at absorbed
  split at absorbed
  · rename_i empty
    cases absorbed
    exact .inl ⟨List.isEmpty_iff.mp empty, rfl⟩
  · rename_i some
    have nonempty : bytes ≠ [] := mt List.isEmpty_iff.mpr some
    dsimp only at absorbed
    split at absorbed
    · cases absorbed
    · rename_i wrote
      split at absorbed
      · cases absorbed
      · rename_i payment
        split at absorbed
        · cases absorbed
        · rename_i unfilled
          cases absorbed
          exact .inr ⟨_, ⟨nonempty, Prod.ext rfl wrote⟩, payment, Bool.eq_false_iff.mpr unfilled⟩

/-- A chunk that ends the reading is refused, or was written and is not paid for, or fills the body.
-/
theorem cases_of_absorb_error {reading : Reading α}
    (absorbed : course.absorb guard declared bytes = .error reading)
    : ∃ written,
        (∃ why,
          course.recorder.Writes declared bytes written (.error why)
          ∧ reading = (course.withRecorder written).finish (.failed why))
        ∨ (course.recorder.Writes declared bytes written (.ok ())
          ∧ let payment :=
              (course.withRecorder written).pay guard
                (course.recorder.withinDeclared declared bytes).length
            payment = .error reading
            ∨ ∃ paid,
                payment = .ok paid
                ∧ paid.recorder.isFilled declared = true
                ∧ reading = paid.finish .complete) := by
  unfold absorb at absorbed
  split at absorbed
  · cases absorbed
  · rename_i some
    have nonempty : bytes ≠ [] := mt List.isEmpty_iff.mpr some
    dsimp only at absorbed
    split at absorbed
    · rename_i wrote
      cases absorbed
      exact ⟨_, .inl ⟨_, ⟨nonempty, Prod.ext rfl wrote⟩, rfl⟩⟩
    · rename_i wrote
      refine ⟨_, .inr ⟨⟨nonempty, Prod.ext rfl wrote⟩, ?_⟩⟩
      split at absorbed
      · rename_i payment
        cases absorbed
        exact .inl payment
      · rename_i paid payment
        split at absorbed
        · rename_i filled
          cases absorbed
          exact .inr ⟨paid, payment, filled, rfl⟩
        · cases absorbed

-----------------------------------------------------------------------------------------
-- All that comes
-----------------------------------------------------------------------------------------

/-- Each step of reading on keeps `Inv`, of the course, the pauses that the stream has made since
its instant and what is left of the stream, or ends the reading with `Post`.
-/
structure Keeps (guard : Guard) (declared : Option Nat)
    (Inv : Course α → List Instant → Stream → Prop) (Post : Reading α → Prop)
    : Prop where
  late {course pauses stream}
    : Inv course pauses stream
      → (∀ moment, guard.await course.now (some (reached course.now pauses)) ≠ .event moment)
      → Post
          (course.interrupted pauses
            (guard.await course.now (some (reached course.now pauses))))
  stalls {course pauses rest}
    : Inv course pauses (.stall :: rest)
      → Post (course.interrupted pauses (guard.await course.now none))
  ends {course pauses moment}
    : Inv course pauses []
      → guard.await course.now (some (reached course.now pauses)) = .event moment
      → Post ((course.proceed moment pauses).finish .complete)
  fails {course pauses moment why rest}
    : Inv course pauses (.failure why :: rest)
      → guard.await course.now (some (reached course.now pauses)) = .event moment
      → Post ((course.proceed moment pauses).finish (.failed (.stream why)))
  pause {course pauses nanos rest}
    : Inv course pauses (.pause nanos :: rest)
      → Inv course (withPause course.now pauses nanos) rest
  further {course grown pauses moment bytes rest}
    : Inv course pauses (.chunk bytes :: rest)
      → guard.await course.now (some (reached course.now pauses)) = .event moment
      → (course.proceed moment pauses).absorb guard declared bytes = .ok grown
      → Inv grown [] rest
  last {course reading pauses moment bytes rest}
    : Inv course pauses (.chunk bytes :: rest)
      → guard.await course.now (some (reached course.now pauses)) = .event moment
      → (course.proceed moment pauses).absorb guard declared bytes = .error reading
      → Post reading

/-- What each step keeps leads to the end of the reading, by induction on the stream. -/
theorem Keeps.pull {Inv : Course α → List Instant → Stream → Prop} {Post : Reading α → Prop}
    (keeps : Keeps guard declared Inv Post) (stream : Stream) {pauses : List Instant}
    (inv : Inv course pauses stream)
    : Post (course.pull guard declared pauses stream) := by
  induction stream generalizing course pauses with
  | nil =>
      rw [pull_nil]
      exact of_awaiting (fun _ comes => keeps.ends inv comes) (keeps.late inv)
  | cons event rest ih =>
      cases event with
      | stall => exact keeps.stalls inv
      | pause nanos =>
          rw [pull_pause]
          exact ih (keeps.pause inv)
      | failure why =>
          rw [pull_failure]
          exact of_awaiting (fun _ comes => keeps.fails inv comes) (keeps.late inv)
      | chunk bytes =>
          rw [pull_chunk]
          refine of_awaiting (fun moment comes => ?_) (keeps.late inv)
          cases absorbed : (course.proceed moment pauses).absorb guard declared bytes with
          | ok grown => exact ih (keeps.further inv comes absorbed)
          | error reading => exact keeps.last inv comes absorbed

/-- The same of a whole read, which takes no step if its deadline cannot be represented or the body
is filled from the start.
-/
theorem Keeps.read {Inv : Course α → List Instant → Stream → Prop} {Post : Reading α → Prop}
    {recorder : Recorder α} {now : Instant} {cancelAt : Option Instant} {stream : Stream}
    (keeps : Keeps ⟨cancelAt, recorder.deadline?⟩ declared Inv Post)
    (overdue
      : recorder.IsOverdue
        → Post (finish ⟨recorder, now, [], []⟩ (.stuck .deadlineUnrepresentable)))
    (filled : recorder.isFilled declared = true → Post (finish ⟨recorder, now, [], []⟩ .complete))
    (inv : recorder.isFilled declared = false → Inv ⟨recorder, now, [], []⟩ [] stream)
    : Post (recorder.read now cancelAt declared stream) := by
  unfold Recorder.read
  dsimp only
  split
  · rename_i unrepresentable
    exact overdue (recorder.isOverdue_iff.mpr unrepresentable)
  · split
    · rename_i whole
      exact filled whole
    · rename_i short
      exact keeps.pull stream (inv (Bool.eq_false_iff.mpr short))

end Course

end WebHarvest.Recording
