import WebHarvest.Proofs.Recording.BodyPrefix
import WebHarvest.Proofs.Recording.ReadEnds
import WebHarvest.Proofs.Recording.Waking

/-! Reading a body step by step. What a reading comes to follows from what each of its steps does:
something of the stream comes before anything that the guard watches, bytes are written and paid
for, or the guard cuts a wait short.
-/

namespace WebHarvest

namespace Clock

/-- The guard does not cut a wait from `now` on short that is for something which comes at `moment`.
-/
structure Guard.LetsPass (guard : Guard) (now moment : Instant) : Prop where
  reached : IsReached now moment
  uncancelled : ∀ due ∈ guard.cancelAt, moment < due
  unexpired : ∀ due ∈ guard.deadline, moment < ring now due

/-- So it does not cut short what takes no time from then on. -/
theorem Guard.LetsPass.stay {guard : Guard} {now moment : Instant}
    (passes : guard.LetsPass now moment)
    : guard.LetsPass moment moment where
  reached := .refl moment
  uncancelled := passes.uncancelled
  unexpired due expires := by
    rw [passes.reached.ring_eq_max]
    exact Nat.lt_of_lt_of_le (passes.unexpired due expires) (Nat.le_max_right _ _)

/-- A wait that ends with its event was not cut short. -/
theorem Guard.letsPass_of_await {guard : Guard} {now due moment : Instant}
    (reached : IsReached now due) (comes : guard.await now (some due) = .event moment)
    : due = moment ∧ guard.LetsPass now moment := by
  have tells := guard.await_isOf now (some due)
  rw [comes] at tells
  obtain ⟨same, uncancelled, unexpired⟩ := tells
  obtain rfl : due = moment := Option.some.inj same
  exact ⟨rfl, reached, fun instant cancels => lt_of_lt_max reached.le (uncancelled instant cancels),
    unexpired⟩

end Clock

namespace Recording

open Clock (Guard Instant IsReached ring)

-----------------------------------------------------------------------------------------
-- Waits that are cut short
-----------------------------------------------------------------------------------------

/-- How and when a guard cuts a reading short that waits from `now` on, a cancellation before a
deadline that rings with it. If the guard watches nothing, a wait can be without end.
-/
inductive CutsShort (guard : Guard) (now : Instant) : Instant → ReadEnd → Prop
  | cancelled {due} (watched : due ∈ guard.cancelAt)
    (first : ∀ other ∈ guard.deadline, max now due ≤ ring now other)
    : CutsShort guard now (max now due) (.failed .cancelled)
  | expired {due elapsed} (watched : due ∈ guard.deadline)
    (first : ∀ other ∈ guard.cancelAt, ring now due < max now other)
    : CutsShort guard now (ring now due) (.failed (.timeout elapsed))
  | endless {moment} (unwatched : ∀ due, ¬guard.Watches due) (reached : IsReached now moment)
    : CutsShort guard now moment (.stuck .endless)

/-- What comes behind pauses was not cut short. -/
theorem ArePauses.letsPass {guard : Guard} {now moment : Instant} {pauses : List Instant}
    (paused : ArePauses now pauses)
    (comes : guard.await now (some (reached now pauses)) = .event moment)
    : guard.LetsPass now moment :=
  (Guard.letsPass_of_await paused.onward comes).2

namespace Course

variable {α : Type} {guard : Guard} {declared : Option Nat}

/-- A wait that did not end with its event was cut short by the guard, by cases of its end. -/
theorem cutsShort_interrupted (course : Course α) (pauses : List Instant) {event : Option Instant}
    (cut : ∀ moment, guard.await course.now event ≠ .event moment)
    : let reading := course.interrupted pauses (guard.await course.now event)
      CutsShort guard course.now reading.now reading.ending := by
  intro reading
  have tells := guard.await_isOf course.now event
  cases ended : guard.await course.now event with
  | event moment => exact absurd ended (cut moment)
  | cancelled moment =>
      rw [ended] at tells
      obtain ⟨⟨due, watched, rfl⟩, first⟩ := tells
      simp only [reading, ended, interrupted, finish, now_breakOff]
      exact .cancelled watched first
  | expired moment =>
      rw [ended] at tells
      obtain ⟨⟨due, watched, rfl⟩, first⟩ := tells
      simp only [reading, ended, interrupted, finish, now_breakOff]
      exact .expired watched first
  | never =>
      rw [ended] at tells
      simp only [reading, ended, interrupted, proceed]
      exact .endless tells.1 (.refl course.now)

variable [Tokens α] {count : Nat}

/-- Bytes that are paid for change the recorder's tokens only, and the wait for them was not cut
short.
-/
theorem paid_of_pay_ok (course : Course α) {paid : Course α}
    (here : guard.LetsPass course.now course.now)
    (payment : course.pay guard count = .ok paid)
    : ∃ bucket,
        paid.recorder = { course.recorder with bucket }
        ∧ bucket.isSome = course.recorder.bucket.isSome
        ∧ guard.LetsPass course.now paid.now := by
  obtain ⟨-, rfl⟩ | ⟨bucket, moment, paced, comes, rfl⟩ := cases_of_pay_ok payment
  · exact ⟨paid.recorder.bucket, rfl, rfl, here⟩
  · obtain ⟨-, passes⟩ :=
      Guard.letsPass_of_await (bucket.isReached_acquire course.now count) comes
    refine ⟨_, recorder_breakOff _ _ _, by rw [paced]; rfl, ?_⟩
    rw [now_breakOff]
    exact passes

/-- The guard cuts short only payments that a rate asks for, and the recorder keeps what was written
before.
-/
theorem cutsShort_of_pay_error (course : Course α) {reading : Reading α}
    (payment : course.pay guard count = .error reading)
    : course.recorder.bucket.isSome = true
      ∧ (∃ bucket, reading.recorder = { course.recorder with bucket })
      ∧ CutsShort guard course.now reading.now reading.ending := by
  obtain ⟨bucket, due, paced, cut, rfl⟩ := cases_of_pay_error payment
  exact ⟨paced, ⟨some bucket, recorder_interrupted _ _ _⟩,
    (course.withTokens bucket).cutsShort_interrupted [] cut⟩

end Course

-----------------------------------------------------------------------------------------
-- Steps
-----------------------------------------------------------------------------------------

/-- Writing takes no tokens. -/
theorem Recorder.bucket_write {α : Type} (recorder : Recorder α) (bytes : Bytes) (digested : Bool)
    : (recorder.write bytes digested).1.bucket = recorder.bucket := by
  unfold write
  split
  · rfl
  · rfl

theorem Recorder.Writes.bucket {α : Type} {recorder written : Recorder α} {declared : Option Nat}
    {bytes : Bytes} {result : Except RecordError Unit}
    (writes : recorder.Writes declared bytes written result)
    : written.bucket = recorder.bucket := by
  have same := recorder.bucket_write (recorder.withinDeclared declared bytes) true
  rwa [writes.wrote] at same

/-- A write fails on a closed recorder, which stays as it is, or at the cap. -/
theorem Recorder.cases_of_write_error {α : Type} {recorder written : Recorder α} {bytes : Bytes}
    {digested : Bool} {why : RecordError}
    (failed : recorder.write bytes digested = (written, .error why))
    : (why = .closed ∧ written = recorder)
      ∨ (why = .lengthExceeded recorder.limits.hardMax
        ∧ recorder.admitted bytes.length < bytes.length
        ∧ written.size = recorder.size + recorder.admitted bytes.length
        ∧ written.contentBegin = recorder.contentBegin) := by
  unfold write at failed
  split at failed
  · obtain ⟨rfl, result⟩ := Prod.mk.inj failed
    split at result
    · rename_i dropped
      cases result
      exact .inr ⟨rfl, dropped, rfl, rfl⟩
    · cases result
  · cases failed
    exact .inl ⟨rfl, rfl⟩

/-- Each step of reading keeps `Inv`, of the recorder, the instant and what is left of the stream,
or ends the reading with `Post`, of the recorder, the instant and the end.
-/
structure Carries {α : Type} (guard : Guard) (declared : Option Nat)
    (Inv : Recorder α → Instant → Stream → Prop) (Post : Recorder α → Instant → ReadEnd → Prop)
    : Prop where
  cut {recorder now later ending stream}
    : Inv recorder now stream → CutsShort guard now later ending → Post recorder later ending
  ends {recorder now moment}
    : Inv recorder now [] → guard.LetsPass now moment → Post recorder moment .complete
  fails {recorder now moment why rest}
    : Inv recorder now (.failure why :: rest)
      → guard.LetsPass now moment
      → Post recorder moment (.failed (.stream why))
  pause {recorder now nanos rest}
    : Inv recorder now (.pause nanos :: rest) → Inv recorder now rest
  empty {recorder now moment rest}
    : Inv recorder now (.chunk [] :: rest)
      → guard.LetsPass now moment
      → Inv recorder moment rest
  refused {recorder now moment bytes rest written why}
    : Inv recorder now (.chunk bytes :: rest)
      → guard.LetsPass now moment
      → recorder.Writes declared bytes written (.error why)
      → Post written moment (.failed why)
  unpaid {recorder now moment later bytes rest written ending} (bucket : Option (TokenBucket α))
    : Inv recorder now (.chunk bytes :: rest)
      → guard.LetsPass now moment
      → recorder.Writes declared bytes written (.ok ())
      → written.bucket.isSome = true
      → CutsShort guard moment later ending
      → Post { written with bucket } later ending
  filled {recorder now moment later bytes rest written} (bucket : Option (TokenBucket α))
    : Inv recorder now (.chunk bytes :: rest)
      → guard.LetsPass now moment
      → recorder.Writes declared bytes written (.ok ())
      → guard.LetsPass moment later
      → written.isFilled declared = true
      → Post { written with bucket } later .complete
  further {recorder now moment later bytes rest written} (bucket : Option (TokenBucket α))
    : Inv recorder now (.chunk bytes :: rest)
      → guard.LetsPass now moment
      → recorder.Writes declared bytes written (.ok ())
      → guard.LetsPass moment later
      → bucket.isSome = written.bucket.isSome
      → written.isFilled declared = false
      → Inv { written with bucket } later rest

namespace Carries

variable {α : Type} [Tokens α] {guard : Guard} {declared : Option Nat}
  {Inv : Recorder α → Instant → Stream → Prop} {Post : Recorder α → Instant → ReadEnd → Prop}

/-- A chunk behind which reading goes on is one step. -/
theorem of_absorb_ok (carries : Carries guard declared Inv Post) {course grown : Course α}
    {now : Instant} {bytes : Bytes} {rest : Stream}
    (inv : Inv course.recorder now (.chunk bytes :: rest)) (passes : guard.LetsPass now course.now)
    (absorbed : course.absorb guard declared bytes = .ok grown)
    : Inv grown.recorder grown.now rest := by
  obtain ⟨rfl, rfl⟩ | ⟨written, writes, payment, unfilled⟩ := Course.cases_of_absorb_ok absorbed
  · exact carries.empty inv passes
  · obtain ⟨bucket, same, paces, onward⟩ :=
      (course.withRecorder written).paid_of_pay_ok passes.stay payment
    rw [same] at unfilled ⊢
    exact carries.further bucket inv passes writes onward paces unfilled

/-- So is one that ends it. -/
theorem of_absorb_error (carries : Carries guard declared Inv Post) {course : Course α}
    {reading : Reading α} {now : Instant} {bytes : Bytes} {rest : Stream}
    (inv : Inv course.recorder now (.chunk bytes :: rest)) (passes : guard.LetsPass now course.now)
    (absorbed : course.absorb guard declared bytes = .error reading)
    : Post reading.recorder reading.now reading.ending := by
  obtain ⟨written, ⟨why, writes, rfl⟩ | ⟨writes, unpaid | ⟨paid, payment, filled, rfl⟩⟩⟩ :=
    Course.cases_of_absorb_error absorbed
  · exact carries.refused inv passes writes
  · obtain ⟨paced, ⟨bucket, same⟩, cut⟩ :=
      (course.withRecorder written).cutsShort_of_pay_error unpaid
    rw [same]
    exact carries.unpaid bucket inv passes writes paced cut
  · obtain ⟨bucket, same, -, onward⟩ :=
      (course.withRecorder written).paid_of_pay_ok passes.stay payment
    rw [same] at filled
    simp only [Course.finish, same]
    exact carries.filled bucket inv passes writes onward filled

/-- What is carried is kept of courses whose pauses lead on. -/
theorem keeps (carries : Carries guard declared Inv Post)
    : Course.Keeps guard declared
        (fun course pauses stream =>
          ArePauses course.now pauses ∧ Inv course.recorder course.now stream)
        fun reading => Post reading.recorder reading.now reading.ending where
  late := by
    rintro course pauses stream ⟨paused, inv⟩ cut
    rw [Course.recorder_interrupted]
    exact carries.cut inv (course.cutsShort_interrupted pauses cut)
  stalls := by
    rintro course pauses rest ⟨paused, inv⟩
    rw [Course.recorder_interrupted]
    have cut := guard.await_none_ne_event course.now
    exact carries.cut inv (course.cutsShort_interrupted pauses cut)
  ends := by
    rintro course pauses moment ⟨paused, inv⟩ comes
    exact carries.ends inv (paused.letsPass comes)
  fails := by
    rintro course pauses moment why rest ⟨paused, inv⟩ comes
    exact carries.fails inv (paused.letsPass comes)
  pause := by
    rintro course pauses nanos rest ⟨paused, inv⟩
    exact ⟨paused.withPause nanos, carries.pause inv⟩
  further := by
    rintro course grown pauses moment bytes rest ⟨paused, inv⟩ comes absorbed
    have inv : Inv (course.proceed moment pauses).recorder course.now (.chunk bytes :: rest) := inv
    exact ⟨.nothing _, carries.of_absorb_ok inv (paused.letsPass comes) absorbed⟩
  last := by
    rintro course reading pauses moment bytes rest ⟨paused, inv⟩ comes absorbed
    have inv : Inv (course.proceed moment pauses).recorder course.now (.chunk bytes :: rest) := inv
    exact carries.of_absorb_error inv (paused.letsPass comes) absorbed

/-- The same of a whole read, which takes no step if its deadline cannot be represented or the body
is filled from the start.
-/
theorem read {recorder : Recorder α} {now : Instant} {cancelAt : Option Instant} {stream : Stream}
    (carries : Carries ⟨cancelAt, recorder.deadline?⟩ declared Inv Post)
    (overdue : recorder.IsOverdue → Post recorder now (.stuck .deadlineUnrepresentable))
    (filled : recorder.isFilled declared = true → Post recorder now .complete)
    (inv : recorder.isFilled declared = false → Inv recorder now stream)
    : let reading := recorder.read now cancelAt declared stream
      Post reading.recorder reading.now reading.ending :=
  carries.keeps.read overdue filled fun short => ⟨.nothing now, inv short⟩

end Carries

-----------------------------------------------------------------------------------------
-- The instant of the end
-----------------------------------------------------------------------------------------

/-- A wait is cut short whole milliseconds later, or by a cancellation at its own instant. -/
theorem CutsShort.isReached_or_cancels {guard : Guard} {now later : Instant} {ending : ReadEnd}
    (cut : CutsShort guard now later ending)
    : IsReached now later ∨ later ∈ guard.cancelAt := by
  cases cut with
  | cancelled watched first => exact Clock.isReached_max_or_mem now watched
  | expired watched first => exact .inl (Clock.isReached_ring now _)
  | endless unwatched reached => exact .inl reached

/-- A read ends whole milliseconds after its entry, or with a cancellation at its own instant. -/
theorem Recorder.read_isReached_or_cancels {α : Type} [Tokens α] (recorder : Recorder α)
    (now : Instant) (cancelAt : Option Instant) (declared : Option Nat) (stream : Stream)
    : let reading := recorder.read now cancelAt declared stream
      IsReached now reading.now ∨ reading.now ∈ cancelAt := by
  have cut {guard : Guard} {moment later : Instant} {ending : ReadEnd}
      (reached : IsReached now moment) (cut : CutsShort guard moment later ending)
      : IsReached now later ∨ later ∈ guard.cancelAt :=
    cut.isReached_or_cancels.imp_left reached.trans
  have carries (guard : Guard)
      : Carries guard declared (fun (_ : Recorder α) moment _ => IsReached now moment)
          fun _ later _ => IsReached now later ∨ later ∈ guard.cancelAt := {
    cut := cut
    ends := fun reached passes => .inl (reached.trans passes.reached)
    fails := fun reached passes => .inl (reached.trans passes.reached)
    pause := id
    empty := fun reached passes => reached.trans passes.reached
    refused := fun reached passes _ => .inl (reached.trans passes.reached)
    unpaid := fun _ reached passes _ _ short => cut (reached.trans passes.reached) short
    filled := fun _ reached passes _ onward _ =>
      .inl ((reached.trans passes.reached).trans onward.reached)
    further := fun _ reached passes _ onward _ _ =>
      (reached.trans passes.reached).trans onward.reached
  }
  exact (carries _).read (fun _ => .inl (.refl now)) (fun _ => .inl (.refl now)) fun _ => .refl now

end Recording

end WebHarvest
