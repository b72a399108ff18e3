/-! Instants and timers. Time is counted in nanoseconds from an arbitrary start, and moves only
while everything waits. A timer counts whole milliseconds, so it rings late by less than two, and by
less than one if the clock shows whole milliseconds when it is waited for. -/

namespace WebHarvest.Clock

/-- An instant, in nanoseconds since the start. -/
abbrev Instant := Nat

/-- Nanoseconds in a millisecond. -/
def millisecond : Nat := 1000000

/-- Nanoseconds in a second. -/
def second : Nat := 1000000000

/-- When a timer for the instant `due` rings that is waited for from `now` on: at once if the
millisecond of `now` is not before `due`, else after the whole milliseconds up to `due`. -/
def ring (now due : Instant) : Instant :=
  let ticks := (due + (millisecond - 1)) / millisecond
  let passed := now / millisecond
  now + (ticks - passed) * millisecond

/-- A timer never rings before it is waited for. -/
theorem le_ring (now due : Instant)
    : now ≤ ring now due :=
  Nat.le_add_right _ _

/-- The longest sleep, in nanoseconds: thirty years. -/
def longestSleep : Nat := 30 * 365 * 86400 * second

/-- When a sleep of so many nanoseconds ends that begins at `now`; a longer one than the longest is
cut short. -/
def wake (now : Instant) (nanos : Nat) : Instant :=
  ring now (now + min nanos longestSleep)

/-- Instants that can be represented: their seconds fit into sixty-three bits. -/
def isRepresentable (t : Instant) : Bool :=
  t / second < Nat.pow 2 63

end WebHarvest.Clock
