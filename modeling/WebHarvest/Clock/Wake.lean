import WebHarvest.Clock.Timer

/-! The instants at which tasks are woken. A task that is woken may begin to wait anew, so the wakes
of a task lead to one another, and of several tasks that are woken together the one comes first that
began to wait first. -/

namespace WebHarvest.Clock

/-- A wake: its instant, and the instants of waking that led to it, the last one first. -/
structure Wake where
  moment : Instant
  since : List Instant
  deriving DecidableEq, Repr

/-- The instants of waking up to and including a wake, the last one first. -/
def Wake.line (wake : Wake) : List Instant :=
  wake.moment :: wake.since

/-- The wakes of a task that waits again at each of some instants, the last one first, after those
that led to the first wait. -/
def wakesAlong (since : List Instant) : List Instant → List Wake
  | [] => []
  | moment :: earlier => ⟨moment, earlier ++ since⟩ :: wakesAlong since earlier

/-- A task with these instants of waking, the last one first, began to wait before another one. The
last instants tell, the ones before if these are equal; of two tasks that were woken together, one
that was taken on just then comes later. -/
def precede : List Instant → List Instant → Bool
  | [], _ => false
  | _ :: _, [] => true
  | a :: as, b :: bs => a < b || (a == b && precede as bs)

end WebHarvest.Clock
