import Mathlib.Algebra.BigOperators.Group.Multiset.Defs
import WebHarvest.Proofs.Crawl.Shift

/-! Every shift can come to its end, wherever it is, unless a transfer in flight never ends. In a
crawl that was cancelled only one with a deadline that cannot be represented does not.
-/

namespace WebHarvest.Crawl

open Calendar (Timestamp)
open Clock (Instant)
open Fetch (Fetcher Transfer)

-----------------------------------------------------------------------------------------
-- Transfers that never end
-----------------------------------------------------------------------------------------

/-- The deadline for reading a body cannot be represented. -/
def Flight.IsOverlong (flight : Flight) : Prop :=
  ∃ timeout ∈ flight.launch.limits.timeout,
    Clock.isRepresentable (flight.launch.started + timeout) = false

/-- A transfer in flight never ends: nobody cancels it, or its deadline cannot be represented. -/
def Shift.IsHeldUp (shift : Shift) : Prop :=
  ∃ flight,
    .flight flight ∈ shift.inFlight
    ∧ flight.IsStuck
    ∧ (shift.world.isCancelled = true → flight.IsOverlong)

namespace Crawler

variable {crawler : Crawler} {wall : Timestamp} {workers : Nat} {urls : List Url} {shift : Shift}
  {world after : World} {flight later : Flight}

/-- A transfer that is cancelled ends, unless its deadline cannot be represented. -/
theorem IsAboard.isOverlong (aboard : crawler.IsAboard world flight)
    (cancelled : world.isCancelled = true) (stuck : flight.IsStuck)
    : flight.IsOverlong := by
  obtain ⟨cancelAt, same, guarded⟩ := aboard.guarded
  obtain ⟨why, ending⟩ := stuck
  have set : cancelAt.isSome := by
    rcases guarded with shared | ⟨set, -⟩
    · rw [shared]
      cases instant : world.cancelAt with
      | none => simp [World.isCancelled, Clock.isBefore, instant] at cancelled
      | some _ => rfl
    · exact set
  -- Otherwise the transfer would end, by the cancellation at the latest.
  by_contra bounded
  simp only [Flight.IsOverlong, not_exists, not_and, Bool.not_eq_false] at bounded
  rw [same] at ending
  exact Transfer.ending_run_ne_stuck crawler.fetcher.config bounded (fun _ _ _ _ => .inl set) why
    ending

theorem IsOrderly.isHeldUp (orderly : crawler.IsOrderly urls workers shift)
    (member : .flight flight ∈ shift.inFlight) (stuck : flight.IsStuck)
    : shift.IsHeldUp :=
  ⟨flight, member, stuck, fun cancelled =>
    (orderly.aboard flight member).isOverlong cancelled stuck⟩

end Crawler

-----------------------------------------------------------------------------------------
-- How far a task is from its end
-----------------------------------------------------------------------------------------

/-- How often there is still something to do for a task: it is taken on, and its attempts end. -/
def Task.rank : Task → Nat
  | .url _ => 3
  | .flight going => if going.isRetry then 1 else 2

namespace Crawler

variable {crawler : Crawler} {wall : Timestamp} {workers : Nat} {urls : List Url} {shift : Shift}
  {world after : World} {flight later : Flight}

/-- A second attempt is not followed by another one. -/
theorem eq_of_lookAfter_isRetry {retry : Flight → World → Progress × World}
    (retried : flight.isRetry = true)
    (goesOn : crawler.lookAfter wall retry flight world = (.underWay later, after))
    : later = flight := by
  unfold lookAfter at goesOn
  split at goesOn
  · cases goesOn
    rfl
  · split at goesOn
    · cases goesOn
      rfl
    · simp [wantsRetry, retried] at goesOn

/-- A flight whose transfer is over is reported on, or else followed by the second attempt. -/
theorem isRetry_of_attend (unstuck : ¬flight.IsStuck) (ended : flight.transfer.now ≤ world.now)
    (goesOn : crawler.attendTask wall (.flight flight) world = (.underWay later, after))
    : flight.isRetry = false ∧ later.isRetry = true := by
  rw [attendTask, attend, lookAfter] at goesOn
  split at goesOn
  · rename_i unlanded
    exact absurd (isStuck_of_land? unlanded) unstuck
  · rw [if_neg (Nat.not_lt.mpr ended)] at goesOn
    dsimp only at goesOn
    split at goesOn
    · rename_i wanted
      simp only [wantsRetry, Bool.and_eq_true, Bool.not_eq_true'] at wanted
      refine ⟨wanted.1.2, ?_⟩
      rw [takeOff_eq] at goesOn
      have same := eq_of_lookAfter_isRetry rfl goesOn
      rw [same]
      rfl
    · cases goesOn

/-- Looking after a task brings it closer to its end, unless it has to wait. -/
theorem rank_lt_of_attendTask {task : Task}
    (ready
      : ∀ flight,
          task = .flight flight → ¬flight.IsStuck ∧ flight.transfer.now ≤ world.now)
    (goesOn : crawler.attendTask wall task world = (.underWay later, after))
    : (Task.flight later).rank < task.rank := by
  cases task with
  | url address =>
      unfold Task.rank
      dsimp only
      split <;> omega
  | flight going =>
      obtain ⟨unstuck, ended⟩ := ready going rfl
      obtain ⟨first, second⟩ := isRetry_of_attend unstuck ended goesOn
      simp [Task.rank, first, second]

end Crawler

/-- How far a shift is from its end. -/
def Shift.distance (shift : Shift) : Nat :=
  (shift.inFlight.map Task.rank).sum + 4 * shift.pending.length

namespace Crawler

variable {crawler : Crawler} {wall : Timestamp} {workers : Nat} {urls : List Url} {shift : Shift}

/-- A shift that is not over, and is not held up, gets closer to its end: a URL is handed out, or
else some task is looked after at the end of its transfer.
-/
theorem IsOrderly.exists_closer (orderly : crawler.IsOrderly urls workers shift)
    (manned : 0 < workers) (unended : ¬shift.IsOver) (free : ¬shift.IsHeldUp)
    : ∃ later, crawler.Reaches wall workers shift later ∧ later.distance < shift.distance := by
  rcases Multiset.empty_or_exists_mem shift.inFlight with idle | ⟨task, member⟩
  · simp only [Shift.IsOver, idle, true_and, not_or, Bool.not_eq_true] at unended
    obtain ⟨waits, going⟩ := unended
    obtain ⟨url, pending, next⟩ := List.exists_cons_of_ne_nil waits
    have step := @Step.handOut crawler wall workers shift url pending going
      (by simpa [idle] using manned) next
    refine ⟨_, .single step, ?_⟩
    simp [Shift.distance, idle, next, Task.rank]
    omega
  · obtain ⟨others, chosen⟩ := Multiset.exists_cons_of_mem member
    -- Time goes on until there is something to do for the task.
    let now : Instant :=
      match task with
      | .url _ => shift.world.now
      | .flight flight => max shift.world.now flight.transfer.now
    have onward : shift.world.now ≤ now := by
      cases task with
      | url address => exact Nat.le_refl _
      | flight going => exact Nat.le_max_left _ _
    have ready
        : ∀ flight, task = .flight flight → ¬flight.IsStuck ∧ flight.transfer.now ≤ now := by
      rintro flight rfl
      exact ⟨fun stuck => free (orderly.isHeldUp member stuck), Nat.le_max_right _ _⟩
    have passed := @Step.pass crawler wall workers shift now onward
    rcases attended : crawler.attendTask wall task { shift.world with now } with ⟨progress, world⟩
    cases progress with
    | underWay flight =>
        refine ⟨_, .tail (.single passed) (.goOn chosen attended), ?_⟩
        have closer := rank_lt_of_attendTask ready attended
        simp [Shift.distance, chosen]
        omega
    | reported report =>
        refine ⟨_, .tail (.single passed) (.finish chosen attended), ?_⟩
        have positive : 0 < task.rank := by
          cases task <;> simp [Task.rank]
          split <;> decide
        simp [Shift.distance, chosen]
        omega

/-- Every shift comes to its end or is held up, by induction on how far it is from its end. -/
theorem IsOrderly.exists_isOver (orderly : crawler.IsOrderly urls workers shift)
    (manned : 0 < workers)
    : ∃ later, crawler.Reaches wall workers shift later ∧ (later.IsOver ∨ later.IsHeldUp) := by
  induction distance : shift.distance using Nat.strong_induction_on generalizing shift with
  | h _ ih =>
      by_cases settled : shift.IsOver ∨ shift.IsHeldUp
      · exact ⟨shift, .refl, settled⟩
      · obtain ⟨unended, free⟩ := not_or.mp settled
        obtain ⟨next, reaches, closer⟩ := orderly.exists_closer manned unended free
        obtain ⟨later, onward, ends⟩ := ih _ (distance ▸ closer) (orderly.reach reaches) rfl
        exact ⟨later, reaches.trans onward, ends⟩

end Crawler

end WebHarvest.Crawl
