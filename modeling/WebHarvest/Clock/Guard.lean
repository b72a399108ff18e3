import WebHarvest.Clock.Timer

/-! Waiting for an event under a guard that may cut the wait short: a cancellation, and a deadline.
A deadline is a timer; a cancellation is none, and ends a wait at its own instant. Of what is due at
the same instant, a cancellation comes first and a deadline second. -/

namespace WebHarvest.Clock

/-- When a wait is cut short, if ever. -/
structure Guard where
  cancelAt : Option Instant
  deadline : Option Instant
  deriving DecidableEq, Repr

/-- What ends a wait, and when. A wait without any end is `never`. -/
inductive Wait where
  | event (moment : Instant)
  | cancelled (moment : Instant)
  | expired (moment : Instant)
  | never
  deriving DecidableEq, Repr

/-- Whether an instant comes before another one, where none is later than all. -/
def isBefore (t : Instant) : Option Instant → Bool
  | some other => t < other
  | none => true

/-- Whether an instant comes no later than another one, where none is later than all. -/
def isBy (t : Instant) : Option Instant → Bool
  | some other => t ≤ other
  | none => true

namespace Guard

/-- Waits from `now` on for an event, which comes at an instant not before `now` or never. -/
def await (guard : Guard) (now : Instant) (event : Option Instant) : Wait :=
  let cancel := guard.cancelAt.map (max now)
  let expiry := guard.deadline.map (ring now)
  match cancel with
  | some t => if isBy t expiry && isBy t event then .cancelled t else afterCancel expiry
  | none => afterCancel expiry
where
  /-- The end of a wait that is not cancelled before the deadline or the event. -/
  afterCancel (expiry : Option Instant) : Wait :=
    match expiry, event with
    | some t, _ => if isBy t event then .expired t else .event (event.getD t)
    | none, some t => .event t
    | none, none => .never

end Guard

end WebHarvest.Clock
