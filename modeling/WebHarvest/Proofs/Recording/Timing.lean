import WebHarvest.Proofs.Recording.Unbounded

/-! The clock and a bounded read. From its entry to its end a read is like one wait: what the guard
watches comes when it would have come for a wait from the entry on, and ends the read then, a
cancellation before a deadline. Bounds take bytes off the end of what is recorded and change nothing
else.
-/

namespace WebHarvest

namespace Clock

variable {guard : Guard} {start now moment : Instant}

/-- An instant some milliseconds later is one by which a timer has rung if that is where it rings or
behind it.
-/
theorem IsReached.isDue_iff (reached : IsReached start now) (due : Instant)
    : IsDue now due ↔ ring start due ≤ now := by
  rw [← ring_eq_self_iff, reached.ring_eq_max]
  exact ⟨fun same => Nat.le_trans (Nat.le_max_right _ _) (Nat.le_of_eq same), Nat.max_eq_left⟩

/-- What the guard watches comes as it would for a wait from `start` on. -/
structure Guard.RingsAsFrom (guard : Guard) (start now : Instant) : Prop where
  cancels : ∀ due ∈ guard.cancelAt, max now due = max start due
  expires : ∀ due ∈ guard.deadline, ring now due = ring start due

theorem Guard.RingsAsFrom.refl (guard : Guard) (start : Instant)
    : guard.RingsAsFrom start start :=
  ⟨fun _ _ => rfl, fun _ _ => rfl⟩

theorem Guard.RingsAsFrom.trans (alike : guard.RingsAsFrom start now)
    (onward : guard.RingsAsFrom now moment)
    : guard.RingsAsFrom start moment where
  cancels due cancels := (onward.cancels due cancels).trans (alike.cancels due cancels)
  expires due expires := (onward.expires due expires).trans (alike.expires due expires)

/-- What passes does not change when the guard comes. -/
theorem Guard.LetsPass.ringsAsFrom (passes : guard.LetsPass now moment)
    : guard.RingsAsFrom now moment where
  cancels due cancels := by
    have ahead := Nat.le_of_lt (passes.uncancelled due cancels)
    rw [Nat.max_eq_right ahead, Nat.max_eq_right (Nat.le_trans passes.reached.le ahead)]
  expires due expires := by
    rw [passes.reached.ring_eq_max]
    exact Nat.max_eq_right (Nat.le_of_lt (passes.unexpired due expires))

/-- So what passes later has passed from the start on. -/
theorem Guard.LetsPass.since (passes : guard.LetsPass now moment) (reached : IsReached start now)
    (alike : guard.RingsAsFrom start now)
    : guard.LetsPass start moment where
  reached := reached.trans passes.reached
  uncancelled := passes.uncancelled
  unexpired due expires := by
    rw [← alike.expires due expires]
    exact passes.unexpired due expires

theorem Guard.LetsPass.trans (passes : guard.LetsPass start now)
    (onward : guard.LetsPass now moment)
    : guard.LetsPass start moment :=
  onward.since passes.reached passes.ringsAsFrom

/-- Nothing passes that a deadline comes before from the start on. -/
theorem Guard.LetsPass.not_isDue (passes : guard.LetsPass start moment) {due : Instant}
    (expires : due ∈ guard.deadline)
    : ¬IsDue moment due := by
  rw [passes.reached.isDue_iff]
  exact Nat.not_le_of_lt (passes.unexpired due expires)

end Clock

namespace Recording

open Clock (Guard Instant IsDue IsReached millisecond ring roundUp)

variable {α : Type}

-----------------------------------------------------------------------------------------
-- When a read ends
-----------------------------------------------------------------------------------------

/-- A reading ended by itself, and neither with a cancellation or a deadline nor with no end. -/
def ReadEnd.IsOwn : ReadEnd → Prop
  | .complete => True
  | .failed (.stream _) => True
  | .failed (.lengthExceeded _) => True
  | .failed .closed => True
  | .failed .cancelled => False
  | .failed (.timeout _) => False
  | .stuck _ => False

namespace CutsShort

variable {guard : Guard} {start now later : Instant} {ending : ReadEnd}

/-- If nothing comes otherwise than from the start on, a wait is cut short as one from there. -/
theorem since (cut : CutsShort guard now later ending) (reached : IsReached start now)
    (alike : guard.RingsAsFrom start now)
    : CutsShort guard start later ending := by
  cases cut with
  | @cancelled due watched first =>
      rw [alike.cancels due watched] at first ⊢
      refine .cancelled watched fun other expires => ?_
      rw [← alike.expires other expires]
      exact first other expires
  | @expired due elapsed watched first =>
      rw [alike.expires due watched] at first ⊢
      refine .expired watched fun other cancels => ?_
      rw [← alike.cancels other cancels]
      exact first other cancels
  | endless unwatched onward => exact .endless unwatched (reached.trans onward)

/-- No wait is longer than till its cancellation. -/
theorem le_max (cut : CutsShort guard now later ending) {due : Instant}
    (cancels : due ∈ guard.cancelAt)
    : later ≤ max now due := by
  cases cut with
  | cancelled too first =>
      exact Nat.le_of_eq (congrArg (max now) (Option.mem_unique too cancels))
  | expired expires first => exact Nat.le_of_lt (first due cancels)
  | endless unwatched => exact absurd (.inl cancels) (unwatched due)

/-- None is longer than till its deadline rings. -/
theorem le_ring (cut : CutsShort guard now later ending) {due : Instant}
    (expires : due ∈ guard.deadline)
    : later ≤ ring now due := by
  cases cut with
  | cancelled cancels first => exact first due expires
  | expired too first =>
      exact Nat.le_of_eq (congrArg (ring now) (Option.mem_unique too expires))
  | endless unwatched => exact absurd (.inr expires) (unwatched due)

end CutsShort

/-- A read comes from its entry to its end as a wait does: it is cut short by what comes first, or
ends by itself before that.
-/
inductive EndsLikeWait (guard : Guard) (start later : Instant) (ending : ReadEnd) : Prop
  | cut (short : CutsShort guard start later ending)
  | passed (passes : guard.LetsPass start later) (own : ending.IsOwn)

namespace EndsLikeWait

variable {guard : Guard} {start later : Instant} {ending : ReadEnd}

theorem le_max (ends : EndsLikeWait guard start later ending) {due : Instant}
    (cancels : due ∈ guard.cancelAt)
    : later ≤ max start due := by
  cases ends with
  | cut short => exact short.le_max cancels
  | passed passes =>
      exact Nat.le_trans (Nat.le_of_lt (passes.uncancelled due cancels)) (Nat.le_max_right _ _)

theorem le_ring (ends : EndsLikeWait guard start later ending) {due : Instant}
    (expires : due ∈ guard.deadline)
    : later ≤ ring start due := by
  cases ends with
  | cut short => exact short.le_ring expires
  | passed passes => exact Nat.le_of_lt (passes.unexpired due expires)

/-- It ends if the guard watches anything. -/
theorem ne_stuck (ends : EndsLikeWait guard start later ending) {due : Instant}
    (watched : guard.Watches due) (why : Stuck)
    : ending ≠ .stuck why := by
  rintro rfl
  cases ends with
  | cut short =>
      cases short with
      | endless unwatched => exact unwatched due watched
  | passed passes own => exact own

/-- It is cancelled just if a cancellation has come by its end. -/
theorem cancelled_iff (ends : EndsLikeWait guard start later ending)
    : ending = .failed .cancelled ↔ ∃ due ∈ guard.cancelAt, due ≤ later := by
  cases ends with
  | cut short =>
      cases short with
      | @cancelled due watched first =>
          exact ⟨fun _ => ⟨due, watched, Nat.le_max_right start due⟩, fun _ => rfl⟩
      | @expired due elapsed watched first =>
          refine ⟨nofun, ?_⟩
          rintro ⟨other, cancels, come⟩
          have before := Clock.lt_of_lt_max (Clock.le_ring start due) (first other cancels)
          exact absurd before (Nat.not_lt_of_le come)
      | endless unwatched =>
          exact ⟨nofun, fun ⟨due, cancels, _⟩ => absurd (.inl cancels) (unwatched due)⟩
  | passed passes own =>
      refine ⟨?_, ?_⟩
      · rintro rfl
        exact own.elim
      · rintro ⟨due, cancels, come⟩
        exact absurd (passes.uncancelled due cancels) (Nat.not_lt_of_le come)

/-- It times out just if its deadline has rung by its end, and no cancellation has come. -/
theorem expired_iff (ends : EndsLikeWait guard start later ending)
    : (∃ elapsed, ending = .failed (.timeout elapsed))
      ↔ (∃ due ∈ guard.deadline, IsDue later due)
        ∧ ∀ due ∈ guard.cancelAt, later < due := by
  cases ends with
  | cut short =>
      cases short with
      | @cancelled due watched first =>
          refine ⟨nofun, fun ⟨_, uncancelled⟩ => ?_⟩
          exact absurd (uncancelled due watched) (Nat.not_lt_of_le (Nat.le_max_right start due))
      | @expired due elapsed watched first =>
          have rung := ((Clock.isReached_ring start due).isDue_iff due).mpr (Nat.le_refl _)
          refine ⟨fun _ => ⟨⟨due, watched, rung⟩, ?_⟩, fun _ => ⟨elapsed, rfl⟩⟩
          exact fun other cancels =>
            Clock.lt_of_lt_max (Clock.le_ring start due) (first other cancels)
      | endless unwatched =>
          exact ⟨nofun, fun ⟨⟨due, expires, _⟩, _⟩ => absurd (.inr expires) (unwatched due)⟩
  | passed passes own =>
      refine ⟨?_, ?_⟩
      · rintro ⟨elapsed, rfl⟩
        exact own.elim
      · rintro ⟨⟨due, expires, rung⟩, -⟩
        exact absurd rung (passes.not_isDue expires)

end EndsLikeWait

/-- A write fails at the cap or on a closed recorder, and not by the clock. -/
theorem Recorder.isOwn_of_write_error {recorder written : Recorder α} {bytes : Bytes}
    {digested : Bool} {why : RecordError}
    (failed : recorder.write bytes digested = (written, .error why))
    : (ReadEnd.failed why).IsOwn := by
  rcases cases_of_write_error failed with ⟨rfl, -⟩ | ⟨rfl, -⟩
  · trivial
  · trivial

/-- The recorder that a read began with is the same unless something has passed the guard. -/
def Recorder.IsUntouched (before : Recorder α) (guard : Guard) (start : Instant)
    (recorder : Recorder α)
    : Prop :=
  recorder = before ∨ ∃ moment, guard.LetsPass start moment

/-- A read that has come from `start` to `now`: it can be cut short as a wait from `start` on can.
-/
structure Recorder.IsAwake (before : Recorder α) (guard : Guard) (start : Instant)
    (recorder : Recorder α) (now : Instant)
    : Prop where
  reached : IsReached start now
  alike : guard.RingsAsFrom start now
  untouched : before.IsUntouched guard start recorder

/-- Each step of a read keeps it so, up to an end that a wait could have had. -/
theorem Recorder.carries_isAwake (before : Recorder α) (guard : Guard) (start : Instant)
    (declared : Option Nat)
    : Carries guard declared
        (fun recorder now _ => before.IsAwake guard start recorder now)
        fun recorder later ending =>
          EndsLikeWait guard start later ending ∧ before.IsUntouched guard start recorder := by
  have further {recorder later : Recorder α} {now moment : Instant}
      (awake : before.IsAwake guard start recorder now) (passes : guard.LetsPass now moment)
      : before.IsAwake guard start later moment := {
    reached := awake.reached.trans passes.reached
    alike := awake.alike.trans passes.ringsAsFrom
    untouched := .inr ⟨moment, passes.since awake.reached awake.alike⟩
  }
  have ends {recorder later : Recorder α} {now moment : Instant} {ending : ReadEnd}
      (awake : before.IsAwake guard start recorder now) (passes : guard.LetsPass now moment)
      (own : ending.IsOwn)
      : EndsLikeWait guard start moment ending ∧ before.IsUntouched guard start later :=
    ⟨.passed (passes.since awake.reached awake.alike) own, (further awake passes).untouched⟩
  exact {
    cut := fun awake short => ⟨.cut (short.since awake.reached awake.alike), awake.untouched⟩
    ends := fun awake passes => ends awake passes trivial
    fails := fun awake passes => ends awake passes trivial
    pause := fun awake => awake
    empty := fun awake passes => further awake passes
    refused := fun awake passes writes =>
      ends awake passes (isOwn_of_write_error writes.wrote)
    unpaid := fun _ awake passes _ _ short =>
      have short := short.since passes.reached passes.ringsAsFrom
      ⟨.cut (short.since awake.reached awake.alike), (further awake passes).untouched⟩
    filled := fun _ awake passes _ onward _ => ends awake (passes.trans onward) trivial
    further := fun _ awake passes _ onward _ _ => further awake (passes.trans onward)
  }

variable [Tokens α]

/-- A read ends at once and leaves the recorder as it is, if the body is filled or its deadline
cannot be represented. Any other one ends like a wait.
-/
theorem Recorder.cases_of_read (recorder : Recorder α) (now : Instant) (cancelAt : Option Instant)
    (declared : Option Nat) (stream : Stream)
    : let guard : Guard := ⟨cancelAt, recorder.deadline?⟩
      let reading := recorder.read now cancelAt declared stream
      (reading.now = now
        ∧ reading.recorder = recorder
        ∧ (recorder.isFilled declared = true ∧ reading.ending = .complete
          ∨ recorder.IsOverdue ∧ reading.ending = .stuck .deadlineUnrepresentable))
      ∨ (EndsLikeWait guard now reading.now reading.ending
        ∧ recorder.IsUntouched guard now reading.recorder) := by
  by_cases idle : recorder.isFilled declared = true ∨ recorder.IsOverdue
  · left
    unfold Recorder.read
    dsimp only
    split
    · rename_i unrepresentable
      exact ⟨rfl, rfl, .inr ⟨recorder.isOverdue_iff.mpr unrepresentable, rfl⟩⟩
    · rename_i representable
      rcases idle with filled | overdue
      · rw [if_pos filled]
        exact ⟨rfl, rfl, .inl ⟨filled, rfl⟩⟩
      · exact absurd (recorder.isOverdue_iff.mp overdue) representable
  · right
    obtain ⟨unfilled, inTime⟩ := not_or.mp idle
    exact (recorder.carries_isAwake _ now declared).read (fun overdue => absurd overdue inTime)
      (fun filled => absurd filled unfilled)
      fun _ => { reached := .refl now, alike := .refl _ now, untouched := .inl rfl }

/-- What a read records is a first part of what it would record without a timeout, a cancellation
and a rate.
-/
theorem Recorder.read_isFirstPart {recorder : Recorder α} (atEnd : recorder.spool.IsAtEnd)
    (now : Instant) (cancelAt : Option Instant) (declared : Option Nat) (stream : Stream)
    : let reading := recorder.read now cancelAt declared stream
      let free := recorder.unbound.read now none declared stream
      ∃ body more,
        reading.recorder.replay.1 = recorder.replay.1 ++ body
        ∧ free.recorder.replay.1 = recorder.replay.1 ++ (body ++ more)
        ∧ reading.recorder.contentBegin = recorder.contentBegin
        ∧ free.recorder.contentBegin = recorder.contentBegin := by
  intro reading free
  obtain ⟨early, late⟩ := read_extends_unbound atEnd now cancelAt declared stream
  obtain ⟨body, recorded⟩ := early.exists_replay
  obtain ⟨more, left⟩ := late.exists_replay
  rw [recorded, List.append_assoc] at left
  exact ⟨body, more, recorded, left, early.contentBegin, late.contentBegin.trans early.contentBegin⟩

/-- By when a read ends, whatever its clock shows: at the instant of a cancellation, and when the
timer of its deadline rings, or at once. It is without end only if the deadline cannot be
represented.
-/
theorem Recorder.read_endsBy (recorder : Recorder α) (now : Instant) (cancelAt : Option Instant)
    (declared : Option Nat) (stream : Stream)
    : let guard : Guard := ⟨cancelAt, recorder.deadline?⟩
      let reading := recorder.read now cancelAt declared stream
      (∀ due ∈ cancelAt, reading.now ≤ max now due)
      ∧ (∀ due ∈ recorder.deadline?, reading.now ≤ ring now due)
      ∧ ∀ due, guard.Watches due → ∀ why, reading.ending = .stuck why → recorder.IsOverdue := by
  intro guard reading
  rcases recorder.cases_of_read now cancelAt declared stream with
    ⟨atOnce, -, ending⟩ | ⟨ends, -⟩
  · change reading.now = now at atOnce
    rw [atOnce]
    refine ⟨fun due _ => Nat.le_max_left now due, fun due _ => Clock.le_ring now due, ?_⟩
    intro due _ why stuck
    rcases ending with ⟨-, complete⟩ | ⟨overdue, -⟩
    · cases complete.symm.trans stuck
    · exact overdue
  · exact ⟨fun due => ends.le_max, fun due => ends.le_ring,
      fun due watched why stuck => absurd stuck (ends.ne_stuck watched why)⟩

/-- How a read fails by the clock, whatever that shows: with a cancellation that has come by then,
and with its deadline if the timer of that has rung and no cancellation has come. If one has come by
the end of a read that had anything to do, the read is cancelled.
-/
theorem Recorder.read_failsAfter (recorder : Recorder α) (now : Instant) (cancelAt : Option Instant)
    (declared : Option Nat) (stream : Stream)
    : let reading := recorder.read now cancelAt declared stream
      (reading.ending = .failed .cancelled → ∃ due ∈ cancelAt, due ≤ reading.now)
      ∧ (∀ elapsed,
          reading.ending = .failed (.timeout elapsed)
          → (∃ due ∈ recorder.deadline?, IsDue reading.now due)
            ∧ ∀ due ∈ cancelAt, reading.now < due)
      ∧ (recorder.isFilled declared = false
          → ¬recorder.IsOverdue
          → ∀ due ∈ cancelAt, due ≤ reading.now → reading.ending = .failed .cancelled) := by
  intro reading
  rcases recorder.cases_of_read now cancelAt declared stream with ⟨-, -, ending⟩ | ⟨ends, -⟩
  · have unfailed (why : RecordError) : reading.ending ≠ .failed why := by
      intro failed
      rcases ending with ⟨-, complete⟩ | ⟨-, stuck⟩
      · cases complete.symm.trans failed
      · cases stuck.symm.trans failed
    refine ⟨fun cancelled => absurd cancelled (unfailed _),
      fun elapsed expired => absurd expired (unfailed _), ?_⟩
    intro unfilled inTime
    rcases ending with ⟨filled, -⟩ | ⟨overdue, -⟩
    · simp [unfilled] at filled
    · exact absurd overdue inTime
  · exact ⟨ends.cancelled_iff.mp, fun elapsed expired => ends.expired_iff.mp ⟨elapsed, expired⟩,
      fun _ _ due cancels come => ends.cancelled_iff.mpr ⟨due, cancels, come⟩⟩

/-- A read records nothing, whatever its clock shows, if a cancellation has come at its entry or the
timer of its deadline has rung.
-/
theorem Recorder.read_eq_of_due (recorder : Recorder α) (now : Instant) (cancelAt : Option Instant)
    (declared : Option Nat) (stream : Stream)
    : let reading := recorder.read now cancelAt declared stream
      (∀ due ∈ cancelAt, due ≤ now → reading.recorder = recorder)
      ∧ ∀ due ∈ recorder.deadline?, IsDue now due → reading.recorder = recorder := by
  intro reading
  rcases recorder.cases_of_read now cancelAt declared stream with
    ⟨-, same, -⟩ | ⟨-, same | ⟨moment, passes⟩⟩
  · exact ⟨fun _ _ _ => same, fun _ _ _ => same⟩
  · exact ⟨fun _ _ _ => same, fun _ _ _ => same⟩
  · have onward := passes.reached.le
    refine ⟨fun due cancels come => ?_, fun due expires rung => ?_⟩
    · have late := Nat.le_trans come onward
      exact absurd (passes.uncancelled due cancels) (Nat.not_lt_of_le late)
    · exact absurd (rung.trans onward) (passes.not_isDue expires)

/-- A clock that shows whole milliseconds still does so after a read, unless the read ends with a
cancellation between them: timers move the clock by whole milliseconds.
-/
theorem Recorder.read_now_mod_millisecond (recorder : Recorder α) {now : Instant}
    (cancelAt : Option Instant) (declared : Option Nat) (stream : Stream)
    : let reading := recorder.read now cancelAt declared stream
      now % millisecond = 0 → reading.now % millisecond = 0 ∨ reading.now ∈ cancelAt := by
  intro reading whole
  have ends := recorder.read_isReached_or_cancels now cancelAt declared stream
  exact ends.imp_left fun reached => reached.mod_millisecond.trans whole

end Recording

end WebHarvest
