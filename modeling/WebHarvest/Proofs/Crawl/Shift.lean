import Mathlib.Data.Multiset.MapFold
import Mathlib.Logic.Relation
import WebHarvest.Proofs.Crawl.Attending

/-! A shift of workers that crawl many URLs. URLs are handed out, tasks are looked after, time
passes and the crawl is cancelled in any order, and there is one report on each URL that was handed
out.
-/

namespace WebHarvest.Crawl

open Calendar (Timestamp)
open Clock (Instant)

-----------------------------------------------------------------------------------------
-- Shifts and their steps
-----------------------------------------------------------------------------------------

/-- A shift: the URLs that were handed out and those that were not, the tasks in flight, the world,
and the reports that were given.
-/
structure Shift where
  handed : List Url
  pending : List Url
  inFlight : Multiset Task
  world : World
  reports : List Report

namespace Shift

/-- No URL was handed out yet. -/
def start (urls : List Url) (world : World) : Shift :=
  ⟨[], urls, 0, world, []⟩

/-- Nothing is in flight and nothing more will be. -/
def IsOver (shift : Shift) : Prop :=
  shift.inFlight = 0 ∧ (shift.pending = [] ∨ shift.world.isCancelled = true)

end Shift

namespace Crawler

/-- One step of a shift. The next URL is handed out while fewer tasks than workers are in flight and
the crawl is not cancelled; a task is looked after, and goes on or is reported on; time passes; or
the crawl is cancelled, of which some tasks hear at once and others an instant later.
-/
inductive Step (crawler : Crawler) (wall : Timestamp) (workers : Nat) : Shift → Shift → Prop where
  | handOut {shift : Shift} {url : Url} {pending : List Url}
      (going : shift.world.isCancelled = false) (free : shift.inFlight.card < workers)
      (next : shift.pending = url :: pending)
      : Step crawler wall workers shift
          { shift with
            handed := shift.handed ++ [url]
            pending
            inFlight := .url url ::ₘ shift.inFlight }
  | goOn {shift : Shift} {task : Task} {others : Multiset Task} {flight : Flight} {world : World}
      (chosen : shift.inFlight = task ::ₘ others)
      (attended : crawler.attendTask wall task shift.world = (.underWay flight, world))
      : Step crawler wall workers shift
          { shift with inFlight := .flight flight ::ₘ others, world }
  | finish {shift : Shift} {task : Task} {others : Multiset Task} {report : Report} {world : World}
      (chosen : shift.inFlight = task ::ₘ others)
      (attended : crawler.attendTask wall task shift.world = (.reported report, world))
      : Step crawler wall workers shift
          { shift with inFlight := others, world, reports := shift.reports ++ [report] }
  | pass {shift : Shift} {now : Instant} (onward : shift.world.now ≤ now)
      : Step crawler wall workers shift { shift with world := { shift.world with now } }
  | cancel {shift : Shift} {prompt late : Multiset Task}
      (going : shift.world.isCancelled = false) (split : shift.inFlight = prompt + late)
      : Step crawler wall workers shift
          { shift with
            inFlight :=
              prompt.map (crawler.cancelTask shift.world.now)
                + late.map (crawler.cancelTask (shift.world.now + 1))
            world := { shift.world with cancelAt := some shift.world.now } }

/-- Any number of steps. -/
def Reaches (crawler : Crawler) (wall : Timestamp) (workers : Nat) : Shift → Shift → Prop :=
  Relation.ReflTransGen (crawler.Step wall workers)

-----------------------------------------------------------------------------------------
-- What a step keeps
-----------------------------------------------------------------------------------------

/-- What every step keeps: the URLs that were handed out come first, there are no more tasks than
workers, and each URL that was handed out is in flight or reported on, as often as it was handed
out.
-/
structure IsOrderly (crawler : Crawler) (urls : List Url) (workers : Nat) (shift : Shift)
    : Prop where
  split : shift.handed ++ shift.pending = urls
  few : shift.inFlight.card ≤ workers
  accounted
    : (shift.reports.map Report.url : Multiset String) + shift.inFlight.map Task.text
      = (shift.handed.map Url.text : List String)
  aboard : ∀ flight, .flight flight ∈ shift.inFlight → crawler.IsAboard shift.world flight

variable {crawler : Crawler} {wall : Timestamp} {workers : Nat} {urls : List Url}
  {shift later : Shift}

theorem isOrderly_start (crawler : Crawler) (urls : List Url) (workers : Nat) (world : World)
    : crawler.IsOrderly urls workers (.start urls world) where
  split := rfl
  few := by simp [Shift.start]
  accounted := by simp [Shift.start]
  aboard := by simp [Shift.start]

/-- A cancelled task is about the same URL. -/
theorem text_cancelTask (crawler : Crawler) (cancelAt : Instant) (task : Task)
    : (crawler.cancelTask cancelAt task).text = task.text := by
  cases task <;> rfl

/-- A cancelled flight is aboard, under the cancellation that it hears of. -/
theorem isAboard_cancelTask {world : World} {task : Task} {flight : Flight} (cancelAt : Instant)
    (aboard : ∀ flight, task = .flight flight → crawler.IsAboard world flight)
    (cancelled : crawler.cancelTask cancelAt task = .flight flight)
    : crawler.IsAboard { world with cancelAt := some world.now } flight := by
  cases task with
  | url address => cases cancelled
  | flight going =>
      cases cancelled
      refine ⟨(aboard going rfl).started, some cancelAt, rfl, .inr ⟨rfl, ?_⟩⟩
      simp [World.isCancelled, Clock.isBefore]

/-- What comes of a task of an orderly shift, and what is so of the others by then. -/
theorem IsOrderly.attended {task : Task} {others : Multiset Task} {result : Progress × World}
    (orderly : crawler.IsOrderly urls workers shift) (chosen : shift.inFlight = task ::ₘ others)
    (attended : crawler.attendTask wall task shift.world = result)
    : Attended crawler task shift.world result
      ∧ ∀ flight, .flight flight ∈ others → crawler.IsAboard result.2 flight := by
  have aboard := orderly.aboard
  simp only [chosen, Multiset.mem_cons] at aboard
  have comes := attendTask_attended crawler wall fun flight same => aboard flight (.inl same.symm)
  rw [attended] at comes
  refine ⟨comes, ?_⟩
  intro flight member
  exact (aboard flight (.inr member)).pass (Nat.le_of_eq comes.now.symm) comes.cancelAt

/-- Every step keeps a shift orderly, by cases of the step. -/
theorem IsOrderly.step (orderly : crawler.IsOrderly urls workers shift)
    (step : crawler.Step wall workers shift later)
    : crawler.IsOrderly urls workers later := by
  have ⟨split, few, accounted, aboard⟩ := orderly
  cases step with
  | @handOut url pending going free next =>
      refine ⟨?_, ?_, ?_, ?_⟩
      · rw [← split, next, List.append_assoc, List.singleton_append]
      · rw [Multiset.card_cons]
        exact free
      · rw [List.map_append, ← Multiset.coe_add, ← accounted, Multiset.add_assoc]
        refine congrArg _ ?_
        rw [Multiset.add_comm, Multiset.map_cons]
        exact (Multiset.singleton_add _ _).symm
      · simpa using aboard
  | @goOn task others flight world chosen attended =>
      obtain ⟨comes, others⟩ := orderly.attended chosen attended
      simp only [chosen, Multiset.card_cons, Multiset.map_cons] at few accounted
      refine ⟨split, by simpa using few, ?_, ?_⟩
      · rw [← accounted, ← comes.text, Multiset.map_cons]
        rfl
      · intro other member
        rcases Multiset.mem_cons.mp member with same | among
        · cases same
          exact (comes.aboard flight rfl).1
        · exact others other among
  | @finish task others report world chosen attended =>
      obtain ⟨comes, others⟩ := orderly.attended chosen attended
      simp only [chosen, Multiset.card_cons, Multiset.map_cons] at few accounted
      refine ⟨split, Nat.le_of_succ_le few, ?_, others⟩
      rw [← accounted, ← comes.text, List.map_append, ← Multiset.coe_add, Multiset.add_assoc]
      exact congrArg _ (Multiset.singleton_add _ _)
  | @pass now onward =>
      exact ⟨split, few, accounted, fun flight member => (aboard flight member).pass onward rfl⟩
  | @cancel prompt late going halves =>
      rw [halves] at few accounted aboard
      refine ⟨split, by simpa using few, ?_, ?_⟩
      · simpa [Multiset.map_map, Function.comp_def, text_cancelTask] using accounted
      · intro flight member
        rcases Multiset.mem_add.mp member with among | among
        · obtain ⟨task, there, cancelled⟩ := Multiset.mem_map.mp among
          refine isAboard_cancelTask _ ?_ cancelled
          rintro flight rfl
          exact aboard flight (Multiset.mem_add.mpr (.inl there))
        · obtain ⟨task, there, cancelled⟩ := Multiset.mem_map.mp among
          refine isAboard_cancelTask _ ?_ cancelled
          rintro flight rfl
          exact aboard flight (Multiset.mem_add.mpr (.inr there))

/-- So do any number of steps, by induction on them. -/
theorem IsOrderly.reach (orderly : crawler.IsOrderly urls workers shift)
    (reaches : crawler.Reaches wall workers shift later)
    : crawler.IsOrderly urls workers later := by
  induction reaches with
  | refl => exact orderly
  | tail _ step ih => exact ih.step step

-----------------------------------------------------------------------------------------
-- What a step adds
-----------------------------------------------------------------------------------------

/-- What is never taken back: reports, a cancellation, and that nothing is handed out behind it. -/
structure IsFollowed (shift later : Shift) : Prop where
  reports : shift.reports <+: later.reports
  cancelled
    : shift.world.isCancelled = true
      → later.world.isCancelled = true ∧ later.handed = shift.handed

theorem IsOrderly.isFollowed_step (orderly : crawler.IsOrderly urls workers shift)
    (step : crawler.Step wall workers shift later)
    : IsFollowed shift later := by
  cases step with
  | handOut going =>
      refine ⟨List.prefix_rfl, fun cancelled => ?_⟩
      rw [going] at cancelled
      cases cancelled
  | goOn chosen attended =>
      obtain ⟨comes, -⟩ := orderly.attended chosen attended
      refine ⟨List.prefix_rfl, fun cancelled => ⟨?_, rfl⟩⟩
      exact (World.isCancelled_congr comes.now comes.cancelAt).trans cancelled
  | finish chosen attended =>
      obtain ⟨comes, -⟩ := orderly.attended chosen attended
      refine ⟨List.prefix_append _ _, fun cancelled => ⟨?_, rfl⟩⟩
      exact (World.isCancelled_congr comes.now comes.cancelAt).trans cancelled
  | pass onward =>
      exact ⟨List.prefix_rfl, fun cancelled =>
        ⟨World.isCancelled_of_le cancelled onward rfl, rfl⟩⟩
  | cancel going =>
      refine ⟨List.prefix_rfl, fun cancelled => ?_⟩
      rw [going] at cancelled
      cases cancelled

/-- Any number of steps take nothing back either, by induction on them. -/
theorem IsOrderly.isFollowed (orderly : crawler.IsOrderly urls workers shift)
    (reaches : crawler.Reaches wall workers shift later)
    : IsFollowed shift later := by
  induction reaches with
  | refl => exact ⟨List.prefix_rfl, fun cancelled => ⟨cancelled, rfl⟩⟩
  | tail before step ih =>
      have next := (orderly.reach before).isFollowed_step step
      refine ⟨ih.reports.trans next.reports, fun cancelled => ?_⟩
      obtain ⟨still, handed⟩ := ih.cancelled cancelled
      obtain ⟨stays, same⟩ := next.cancelled still
      exact ⟨stays, same.trans handed⟩

/-- There are as many reports and tasks as URLs were handed out. -/
theorem IsOrderly.length_handed (orderly : crawler.IsOrderly urls workers shift)
    : shift.reports.length + shift.inFlight.card = shift.handed.length := by
  simpa using congrArg Multiset.card orderly.accounted

/-- At the end there is one report on each URL that was handed out. -/
theorem IsOrderly.perm_of_isOver (orderly : crawler.IsOrderly urls workers shift)
    (ended : shift.IsOver)
    : (shift.reports.map Report.url).Perm (shift.handed.map Url.text) := by
  have accounted := orderly.accounted
  rw [ended.1, Multiset.map_zero, Multiset.add_zero] at accounted
  exact Multiset.coe_eq_coe.mp accounted

end Crawler

end WebHarvest.Crawl
