import WebHarvest.Proofs.Clock.Delay

/-! How a wait under a guard ends: with its event if that comes before all that the guard watches,
else with what comes first, a cancellation before a deadline. A cancellation comes at its own
instant. A deadline is a timer, which counts whole milliseconds, so it rings at the first of these
that has reached it.
-/

namespace WebHarvest.Clock

-----------------------------------------------------------------------------------------
-- Timers
-----------------------------------------------------------------------------------------

/-- The first whole millisecond that is not before an instant. -/
def roundUp (moment : Instant) : Instant :=
  (moment + (millisecond - 1)) / millisecond * millisecond

/-- A timer for an instant has rung by another one. -/
def IsDue (now due : Instant) : Prop :=
  roundUp due ≤ now

theorem IsDue.le {now due : Instant} (rung : IsDue now due) : due ≤ now := by
  have general (due : Nat) : due ≤ (due + (1000000 - 1)) / 1000000 * 1000000 := by
    omega
  exact Nat.le_trans (general due) rung

/-- What has rung stays so. -/
theorem IsDue.trans {now later due : Instant} (rung : IsDue now due) (onward : now ≤ later)
    : IsDue later due :=
  Nat.le_trans rung onward

/-- A clock that shows whole milliseconds has rung for all instants that it has reached. -/
theorem isDue_iff_of_whole {now : Instant} (whole : now % millisecond = 0) (due : Instant)
    : IsDue now due ↔ due ≤ now := by
  have general (now due : Nat) (whole : now % 1000000 = 0)
      : (due + (1000000 - 1)) / 1000000 * 1000000 ≤ now ↔ due ≤ now := by
    omega
  exact general now due whole

/-- A timer rings at the millisecond of its instant, plus the fraction that the clock shows, and at
once if that is over.
-/
theorem ring_eq_max (now due : Instant)
    : ring now due = max now (roundUp due + now % millisecond) := by
  have general (now due : Nat)
      : now + ((due + (1000000 - 1)) / 1000000 - now / 1000000) * 1000000
        = max now ((due + (1000000 - 1)) / 1000000 * 1000000 + now % 1000000) := by
    omega
  exact general now due

/-- No timer rings before it is due. -/
theorem due_le_ring (now due : Instant) : due ≤ ring now due := by
  have late (now due : Nat)
      : due ≤ now + ((due + (1000000 - 1)) / 1000000 - now / 1000000) * 1000000 := by
    omega
  exact late now due

/-- A timer rings at once just if it is due. -/
theorem ring_eq_self_iff (now due : Instant)
    : ring now due = now ↔ IsDue now due := by
  have general (now due : Nat)
      : now + ((due + (1000000 - 1)) / 1000000 - now / 1000000) * 1000000 = now
        ↔ (due + (1000000 - 1)) / 1000000 * 1000000 ≤ now := by
    omega
  exact general now due

/-- The fraction of a millisecond that a clock shows stays as it is. -/
theorem IsReached.mod_millisecond {start now : Instant} (reached : IsReached start now)
    : now % millisecond = start % millisecond := by
  obtain ⟨ticks, rfl⟩ := reached
  exact Nat.add_mul_mod_self_left ..

/-- A timer that is waited for some milliseconds later rings when it would have rung, or at once.
-/
theorem IsReached.ring_eq_max {start now : Instant} (reached : IsReached start now)
    (due : Instant)
    : ring now due = max now (ring start due) := by
  rw [Clock.ring_eq_max, reached.mod_millisecond, Clock.ring_eq_max start, ← Nat.max_assoc,
    Nat.max_eq_left reached.le]

/-- What comes before a cancellation ends a wait has come before that is due. -/
theorem lt_of_lt_max {now moment due : Instant} (onward : now ≤ moment)
    (before : moment < max now due)
    : moment < due := by
  refine Nat.lt_of_not_le fun come => ?_
  exact Nat.not_lt_of_le (Nat.max_le.mpr ⟨onward, come⟩) before

/-- A cancellation ends a wait at once or at its own instant. -/
theorem isReached_max_or_mem {cancelAt : Option Instant} {due : Instant} (now : Instant)
    (cancels : due ∈ cancelAt)
    : IsReached now (max now due) ∨ max now due ∈ cancelAt := by
  rcases Nat.le_total due now with come | ahead
  · rw [Nat.max_eq_left come]
    exact .inl (.refl now)
  · rw [Nat.max_eq_right ahead]
    exact .inr cancels

-----------------------------------------------------------------------------------------
-- Guards
-----------------------------------------------------------------------------------------

/-- A guard cuts waits short at an instant: a cancellation or its deadline. -/
def Guard.Watches (guard : Guard) (due : Instant) : Prop :=
  due ∈ guard.cancelAt ∨ due ∈ guard.deadline

/-- What the end of a wait tells: its event came before all that the guard watches, or what the
guard watches came first, where a cancellation precedes a deadline that rings with it.
-/
def Wait.IsOf (guard : Guard) (now : Instant) (event : Option Instant) : Wait → Prop
  | .event moment =>
    event = some moment
    ∧ (∀ due ∈ guard.cancelAt, moment < max now due)
    ∧ ∀ due ∈ guard.deadline, moment < ring now due
  | .cancelled moment =>
    (∃ due ∈ guard.cancelAt, moment = max now due) ∧ ∀ due ∈ guard.deadline, moment ≤ ring now due
  | .expired moment =>
    (∃ due ∈ guard.deadline, moment = ring now due) ∧ ∀ due ∈ guard.cancelAt, moment < max now due
  | .never => (∀ due, ¬guard.Watches due) ∧ event = none

theorem isBy_iff {t : Instant} {other : Option Instant}
    : isBy t other = true ↔ ∀ moment ∈ other, t ≤ moment := by
  cases other with
  | none => simp [isBy]
  | some moment => simp [isBy]

/-- What comes no later than an instant does so no later than before. -/
theorem isBy_of_le {t later : Instant} {other : Option Instant} (earlier : t ≤ later)
    (late : isBy later other = true)
    : isBy t other = true := by
  cases other with
  | none => rfl
  | some other =>
      simp only [isBy, decide_eq_true_eq] at late ⊢
      exact Nat.le_trans earlier late

theorem isBefore_of_le {t later : Instant} {other : Option Instant} (earlier : t ≤ later)
    (early : isBefore later other = true)
    : isBefore t other = true := by
  cases other with
  | none => rfl
  | some other =>
      simp only [isBefore, decide_eq_true_eq] at early ⊢
      exact Nat.lt_of_le_of_lt earlier early

/-- A wait that is not cancelled first ends with the deadline or the event, by cases of both. -/
theorem Guard.afterCancel_isOf {guard : Guard} {now : Instant} {event : Option Instant}
    (uncancelled
      : ∀ due ∈ guard.cancelAt,
          isBy (max now due) (guard.deadline.map (ring now)) = true
          → ¬isBy (max now due) event = true)
    : (await.afterCancel event (guard.deadline.map (ring now))).IsOf guard now event := by
  obtain ⟨cancelAt, deadline⟩ := guard
  cases deadline with
  | none =>
      cases event with
      | none =>
          refine ⟨?_, rfl⟩
          rintro due (cancels | expires)
          · exact absurd rfl (uncancelled due cancels rfl)
          · cases expires
      | some moment =>
          refine ⟨rfl, fun due cancels => ?_, nofun⟩
          have unheard := uncancelled due cancels rfl
          exact Nat.lt_of_not_le fun early => unheard (by simpa [isBy] using early)
  | some deadline =>
      simp only [await.afterCancel, Option.map_some]
      split
      · rename_i expires
        refine ⟨⟨deadline, rfl, rfl⟩, ?_⟩
        intro due cancels
        refine Nat.lt_of_not_le fun early => ?_
        refine uncancelled due cancels (by simpa [isBy] using early) ?_
        rw [isBy_iff] at expires ⊢
        exact fun moment comes => Nat.le_trans early (expires moment comes)
      · rename_i unexpired
        cases event with
        | none => exact absurd rfl unexpired
        | some moment =>
            have before : moment < ring now deadline := by simpa [isBy] using unexpired
            refine ⟨rfl, fun due cancels => ?_, fun due expires => ?_⟩
            · refine Nat.lt_of_not_le fun early => ?_
              have unexpired := Nat.le_of_lt (Nat.lt_of_le_of_lt early before)
              refine uncancelled due cancels ?_ (by simpa [isBy] using early)
              simpa [isBy] using unexpired
            · cases expires
              exact before

/-- Every wait tells by what it was ended. -/
theorem Guard.await_isOf (guard : Guard) (now : Instant) (event : Option Instant)
    : (guard.await now event).IsOf guard now event := by
  cases cancels : guard.cancelAt with
  | none =>
      simp only [await, cancels, Option.map_none]
      exact afterCancel_isOf (by simp [cancels])
  | some instant =>
      simp only [await, cancels, Option.map_some]
      split
      · rename_i first
        obtain ⟨unexpired, -⟩ := Bool.and_eq_true_iff.mp first
        refine ⟨⟨instant, cancels, rfl⟩, fun deadline expires => ?_⟩
        rw [expires] at unexpired
        simpa [isBy] using unexpired
      · rename_i late
        apply afterCancel_isOf
        intro due cancelsToo unexpired unheard
        obtain rfl : instant = due := Option.some.inj (cancels.symm.trans cancelsToo)
        exact late (Bool.and_eq_true_iff.mpr ⟨unexpired, unheard⟩)

-- Between two milliseconds a cancellation ends a wait at once, and a deadline does not.
example
    : Guard.await ⟨some 500000, none⟩ 700000 (some 800000) = .cancelled 700000
      ∧ Guard.await ⟨none, some 500000⟩ 700000 (some 800000) = .event 800000 := by
  decide

namespace Guard

variable {guard : Guard} {now : Instant} {event : Option Instant}

/-- A wait that ends with its event does so when that comes. -/
theorem eq_of_await_event {due moment : Instant}
    (comes : guard.await now (some due) = .event moment)
    : due = moment := by
  have tells := guard.await_isOf now (some due)
  rw [comes] at tells
  exact Option.some.inj tells.1

/-- A wait for nothing is always cut short. -/
theorem await_none_ne_event (guard : Guard) (now moment : Instant)
    : guard.await now none ≠ .event moment := by
  intro comes
  have tells := guard.await_isOf now none
  rw [comes] at tells
  cases tells.1

/-- A wait is without end only where no event comes, no cancellation and no deadline. -/
theorem await_never (endless : guard.await now event = .never)
    : guard.cancelAt = none ∧ guard.deadline = none ∧ event = none := by
  have tells := guard.await_isOf now event
  rw [endless] at tells
  obtain ⟨unwatched, nothing⟩ := tells
  exact ⟨Option.eq_none_iff_forall_not_mem.mpr fun due cancels => unwatched due (.inl cancels),
    Option.eq_none_iff_forall_not_mem.mpr fun due expires => unwatched due (.inr expires),
    nothing⟩

end Guard

end WebHarvest.Clock
