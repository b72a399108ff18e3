import WebHarvest.Clock.Guard

/-! Time in whole milliseconds. A timer counts them from the instant at which it is waited for, so a
wait that begins some of them later ends as many later, and in the same way.
-/

namespace WebHarvest.Clock

-----------------------------------------------------------------------------------------
-- Instants
-----------------------------------------------------------------------------------------

/-- The instant that comes some milliseconds after another one. -/
def delayed (ticks : Nat) (moment : Instant) : Instant :=
  -- With the factors the other way round, comparing instants would count a millisecond down.
  moment + millisecond * ticks

/-- An instant comes some whole milliseconds after another one, or is the same. -/
def IsReached (start now : Instant) : Prop :=
  ∃ ticks, now = delayed ticks start

namespace IsReached

variable {start now later : Instant}

theorem refl (start : Instant) : IsReached start start :=
  ⟨0, by simp [delayed]⟩

theorem trans (reached : IsReached start now) (onward : IsReached now later)
    : IsReached start later := by
  obtain ⟨ticks, rfl⟩ := reached
  obtain ⟨more, rfl⟩ := onward
  exact ⟨ticks + more, by rw [delayed, delayed, delayed, Nat.mul_add, Nat.add_assoc]⟩

theorem le (reached : IsReached start now) : start ≤ now := by
  obtain ⟨ticks, rfl⟩ := reached
  exact Nat.le_add_right _ _

end IsReached

theorem isReached_ring (now due : Instant) : IsReached now (ring now due) :=
  ⟨_, by rw [ring, delayed, Nat.mul_comm]⟩

variable (ticks : Nat)

theorem delayed_le_delayed (moment other : Instant)
    : delayed ticks moment ≤ delayed ticks other ↔ moment ≤ other := by
  rw [delayed, delayed, Nat.add_le_add_iff_right]

theorem delayed_lt_delayed (moment other : Instant)
    : delayed ticks moment < delayed ticks other ↔ moment < other := by
  rw [delayed, delayed, Nat.add_lt_add_iff_right]

theorem delayed_inj (moment other : Instant)
    : delayed ticks moment = delayed ticks other ↔ moment = other := by
  rw [delayed, delayed, Nat.add_right_cancel_iff]

theorem max_delayed (moment other : Instant)
    : max (delayed ticks moment) (delayed ticks other) = delayed ticks (max moment other) := by
  rw [delayed, delayed, delayed, Nat.add_max_add_right]

theorem delayed_sub_delayed (moment other : Instant)
    : delayed ticks moment - delayed ticks other = moment - other := by
  rw [delayed, delayed, Nat.add_sub_add_right]

theorem delayed_add (moment : Instant) (nanos : Nat)
    : delayed ticks moment + nanos = delayed ticks (moment + nanos) := by
  rw [delayed, delayed, Nat.add_right_comm]

-----------------------------------------------------------------------------------------
-- Timers
-----------------------------------------------------------------------------------------

theorem ring_delayed (now due : Instant)
    : ring (delayed ticks now) (delayed ticks due) = delayed ticks (ring now due) := by
  have positive : 0 < millisecond := by decide
  have due : (delayed ticks due + (millisecond - 1)) / millisecond
      = (due + (millisecond - 1)) / millisecond + ticks := by
    rw [delayed_add, delayed, Nat.add_mul_div_left _ _ positive]
  have passed : delayed ticks now / millisecond = now / millisecond + ticks := by
    rw [delayed, Nat.add_mul_div_left _ _ positive]
  rw [ring, ring, due, passed, Nat.add_sub_add_right, delayed_add]

theorem wake_delayed (now : Instant) (nanos : Nat)
    : wake (delayed ticks now) nanos = delayed ticks (wake now nanos) := by
  rw [wake, delayed_add, ring_delayed, wake]

theorem isReached_wake (now : Instant) (nanos : Nat) : IsReached now (wake now nanos) :=
  isReached_ring now _

/-- What is representable some milliseconds later is representable. -/
theorem isRepresentable_of_delayed {moment : Instant}
    (representable : isRepresentable (delayed ticks moment) = true)
    : isRepresentable moment = true := by
  simp only [isRepresentable, decide_eq_true_eq] at representable ⊢
  have earlier : moment / second ≤ delayed ticks moment / second :=
    Nat.div_le_div_right (Nat.le_add_right _ _)
  exact Nat.lt_of_le_of_lt earlier representable

-----------------------------------------------------------------------------------------
-- Waits
-----------------------------------------------------------------------------------------

theorem isBefore_delayed (moment : Instant) (other : Option Instant)
    : isBefore (delayed ticks moment) (other.map (delayed ticks)) = isBefore moment other := by
  cases other with
  | none => simp only [Option.map_none, isBefore]
  | some other => simp only [Option.map_some, isBefore, delayed_lt_delayed]

theorem isBy_delayed (moment : Instant) (other : Option Instant)
    : isBy (delayed ticks moment) (other.map (delayed ticks)) = isBy moment other := by
  cases other with
  | none => simp only [Option.map_none, isBy]
  | some other => simp only [Option.map_some, isBy, delayed_le_delayed]

/-- The guard that cuts waits short some milliseconds later. -/
def Guard.delayed (guard : Guard) : Guard where
  cancelAt := guard.cancelAt.map (Clock.delayed ticks)
  deadline := guard.deadline.map (Clock.delayed ticks)

/-- The same end of a wait some milliseconds later. -/
def Wait.delayed : Wait → Wait
  | .event moment => .event (Clock.delayed ticks moment)
  | .cancelled moment => .cancelled (Clock.delayed ticks moment)
  | .expired moment => .expired (Clock.delayed ticks moment)
  | .never => .never

theorem Guard.afterCancel_delayed (event expiry : Option Instant)
    : await.afterCancel (event.map (Clock.delayed ticks)) (expiry.map (Clock.delayed ticks))
      = (await.afterCancel event expiry).delayed ticks := by
  cases expiry with
  | some moment =>
      simp only [await.afterCancel, Option.map_some, isBy_delayed]
      split
      · rw [Wait.delayed]
      · cases event with
        | some due => simp only [Option.map_some, Option.getD_some, Wait.delayed]
        | none => contradiction
  | none =>
      cases event with
      | some due => simp only [await.afterCancel, Option.map_none, Option.map_some, Wait.delayed]
      | none => simp only [await.afterCancel, Option.map_none, Wait.delayed]

/-- A wait that begins some milliseconds later, for an event that comes as much later and with a
guard that is due as much later, ends as much later in the same way.
-/
theorem Guard.await_delayed (guard : Guard) (now : Instant) (event : Option Instant)
    : (guard.delayed ticks).await (Clock.delayed ticks now) (event.map (Clock.delayed ticks))
      = (guard.await now event).delayed ticks := by
  have cancels
      : (guard.cancelAt.map (Clock.delayed ticks)).map (max (Clock.delayed ticks now))
        = (guard.cancelAt.map (max now)).map (Clock.delayed ticks) := by
    simp only [Option.map_map, Function.comp_def, max_delayed]
  have expires
      : (guard.deadline.map (Clock.delayed ticks)).map (ring (Clock.delayed ticks now))
        = (guard.deadline.map (ring now)).map (Clock.delayed ticks) := by
    simp only [Option.map_map, Function.comp_def, ring_delayed]
  simp only [await, Guard.delayed, cancels, expires]
  cases guard.cancelAt.map (max now) with
  | none => exact afterCancel_delayed ticks event _
  | some moment =>
      simp only [Option.map_some, isBy_delayed]
      split
      · rw [Wait.delayed]
      · exact afterCancel_delayed ticks event _

end WebHarvest.Clock
