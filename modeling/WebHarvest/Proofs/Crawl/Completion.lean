import Mathlib.Algebra.BigOperators.Group.Multiset.Basic
import Mathlib.Algebra.Order.BigOperators.Group.Multiset
import Mathlib.Algebra.Order.Group.Nat
import WebHarvest.Proofs.Crawl.Ending
import WebHarvest.Proofs.Fetch.Cancellation

/-! A crawl of many URLs goes by steps of a shift, and goes on until the shift is over: there is
always another instant at which a task is woken, and the replies bound the number of such instants.
-/

namespace WebHarvest.Crawl

open Calendar (Timestamp)
open Clock (Instant)
open Fetch (Reply Transfer)

-----------------------------------------------------------------------------------------
-- Wakes that are left
-----------------------------------------------------------------------------------------

/-- All wakes that a task takes. -/
def Task.wakes : Task → Nat
  | .url _ => 0
  | .flight going => going.transfer.wakes.length

namespace Crawler

variable {crawler : Crawler} {wall : Timestamp} {task : Task} {others : Multiset Task}
  {world : World} {count : Nat}

/-- As many wakes suffice after one of the tasks was looked after. -/
theorem Attended.areFunded {result : Progress × World}
    (attended : crawler.Attended task world result)
    (comes : crawler.attendTask wall task world = result)
    (funded : AreFunded (task ::ₘ others) world count)
    : AreFunded (result.1.tasks + others) result.2 count := by
  rcases funded with ⟨flight, member, why, stuck⟩ | enough
  · left
    rcases Multiset.mem_cons.mp member with rfl | among
    · rw [attendTask_of_stuck stuck] at comes
      subst comes
      exact ⟨flight, by simp [Progress.tasks], why, stuck⟩
    · exact ⟨flight, Multiset.mem_add.mpr (.inr among), why, stuck⟩
  · rw [Multiset.map_cons, Multiset.sum_cons] at enough
    have own : AreFunded {task} world (count - (others.map (Task.remaining world.now)).sum) := by
      right
      rw [Multiset.map_singleton, Multiset.sum_singleton]
      omega
    rcases attended.funded _ own with ⟨flight, member, stuck⟩ | less
    · exact .inl ⟨flight, Multiset.mem_add.mpr (.inl member), stuck⟩
    · right
      rw [attended.now] at less ⊢
      rw [Multiset.map_add, Multiset.sum_add]
      omega

end Crawler

-----------------------------------------------------------------------------------------
-- The shift of a crawl
-----------------------------------------------------------------------------------------

namespace Crawling

/-- All tasks of a crawl. -/
def inFlight (crawling : Crawling) : Multiset Task :=
  (crawling.ready ++ crawling.waiting.map .flight : List Task)

theorem card_inFlight (crawling : Crawling)
    : crawling.inFlight.card = crawling.ready.length + crawling.waiting.length := by
  simp [inFlight]

/-- A flight that waits is one of them. -/
theorem mem_inFlight {crawling : Crawling} {flight : Flight} (waits : flight ∈ crawling.waiting)
    : .flight flight ∈ crawling.inFlight :=
  Multiset.mem_coe.mpr (List.mem_append_right _ (List.mem_map_of_mem waits))

/-- So is the first ready task. -/
theorem inFlight_cons (pending : List Url) (task : Task) (ready : List Task)
    (waiting : List Flight) (world : World)
    : inFlight ⟨pending, task :: ready, waiting, world⟩
      = task ::ₘ inFlight ⟨pending, ready, waiting, world⟩ :=
  rfl

/-- And so is the flight that began to wait last. -/
theorem inFlight_concat (pending : List Url) (ready : List Task) (waiting : List Flight)
    (flight : Flight) (world : World)
    : inFlight ⟨pending, ready, waiting ++ [flight], world⟩
      = .flight flight ::ₘ inFlight ⟨pending, ready, waiting, world⟩ := by
  apply Multiset.coe_eq_coe.mpr
  simp only [List.map_append, List.map_cons, List.map_nil, ← List.append_assoc]
  exact List.perm_append_singleton _ _

/-- The shift of a crawl that has handed out some URLs and given some reports. -/
def shift (crawling : Crawling) (handed : List Url) (reports : List Report) : Shift :=
  ⟨handed, crawling.urls, crawling.inFlight, crawling.world, reports⟩

variable {crawling : Crawling} {moment : Instant}

/-- Some flight is woken at the next instant of waking, and none before it. -/
theorem nextWake?_spec (next : crawling.nextWake? = some moment)
    : (∃ flight ∈ crawling.waiting,
        ∃ wake, flight.nextWake? crawling.world.now = some wake ∧ wake.moment = moment)
      ∧ ∀ flight ∈ crawling.waiting,
          ∀ wake,
            flight.nextWake? crawling.world.now = some wake → moment ≤ wake.moment := by
  obtain ⟨member, least⟩ := List.min?_eq_some_iff.mp next
  constructor
  · obtain ⟨flight, waits, found⟩ := List.mem_filterMap.mp member
    obtain ⟨wake, awaited, same⟩ := Option.map_eq_some_iff.mp found
    exact ⟨flight, waits, wake, awaited, same⟩
  · intro flight waits wake awaited
    exact least _ (List.mem_filterMap.mpr ⟨flight, waits, by simp [awaited]⟩)

/-- Time leaves all tasks in flight, whether they are woken or not. -/
theorem inFlight_advance (crawling : Crawling) (moment : Instant)
    : (crawling.advance moment).inFlight = crawling.inFlight := by
  apply Multiset.coe_eq_coe.mpr
  simp only [advance, List.partition_eq_filter_filter, List.append_assoc, ← List.map_append]
  refine (List.Perm.map _ ?_).append_left _
  exact ((List.mergeSort_perm _ _).append_right _).trans (List.filter_append_perm _ _)

end Crawling

namespace Crawler

/-- A crawl of URLs has come from an orderly shift by steps, and whatever waits has to. -/
structure IsGoing (crawler : Crawler) (wall : Timestamp) (workers : Nat) (urls : List Url)
    (origin : Shift) (handed : List Url) (reports : List Report) (crawling : Crawling)
    : Prop where
  began : crawler.IsOrderly urls workers origin
  reached : crawler.Reaches wall workers origin (crawling.shift handed reports)
  awaited : ∀ flight ∈ crawling.waiting, flight.IsAwaited crawling.world.now

namespace IsGoing

variable {crawler : Crawler} {wall : Timestamp} {workers count : Nat} {urls : List Url}
  {origin : Shift} {world after : World} {handed pending : List Url} {reports : List Report}
  {crawling : Crawling} {task : Task} {ready : List Task} {waiting : List Flight}

theorem orderly (going : crawler.IsGoing wall workers urls origin handed reports crawling)
    : crawler.IsOrderly urls workers (crawling.shift handed reports) :=
  going.began.reach going.reached

-----------------------------------------------------------------------------------------
-- Ready tasks
-----------------------------------------------------------------------------------------

/-- What comes of the first ready task. -/
theorem attended {result : Progress × World}
    (going
      : crawler.IsGoing wall workers urls origin handed reports
          ⟨pending, task :: ready, waiting, world⟩)
    (comes : crawler.attendTask wall task world = result)
    : crawler.Attended task world result :=
  (going.orderly.attended (Crawling.inFlight_cons pending task ready waiting world) comes).1

/-- A ready task that goes on waits behind the others. -/
theorem goOn {flight : Flight}
    (going
      : crawler.IsGoing wall workers urls origin handed reports
          ⟨pending, task :: ready, waiting, world⟩)
    (comes : crawler.attendTask wall task world = (.underWay flight, after))
    : crawler.IsGoing wall workers urls origin handed reports
        ⟨pending, ready, waiting ++ [flight], after⟩
      ∧ ∀ count,
          AreFunded (Crawling.inFlight ⟨pending, task :: ready, waiting, world⟩) world count
          → AreFunded (Crawling.inFlight ⟨pending, ready, waiting ++ [flight], after⟩) after
              count := by
  have attended := going.attended comes
  have chosen := Crawling.inFlight_cons pending task ready waiting world
  refine ⟨⟨going.began, ?_, ?_⟩, ?_⟩
  · refine going.reached.tail ?_
    unfold Crawling.shift
    rw [Crawling.inFlight_concat]
    exact .goOn chosen comes
  · intro other member
    rcases List.mem_append.mp member with before | last
    · exact attended.now ▸ going.awaited other before
    · obtain rfl := List.mem_singleton.mp last
      exact (attended.aboard other rfl).2
  · intro count funded
    rw [chosen] at funded
    rw [Crawling.inFlight_concat]
    exact attended.areFunded comes funded

/-- A ready task that is reported on is gone. -/
theorem finish {report : Report}
    (going
      : crawler.IsGoing wall workers urls origin handed reports
          ⟨pending, task :: ready, waiting, world⟩)
    (comes : crawler.attendTask wall task world = (.reported report, after))
    : crawler.IsGoing wall workers urls origin handed (reports ++ [report])
        ⟨pending, ready, waiting, after⟩ where
  began := going.began
  reached :=
    going.reached.tail
      (.finish (Crawling.inFlight_cons pending task ready waiting world) comes)
  awaited flight member := (going.attended comes).now ▸ going.awaited flight member

/-- Ready tasks are looked after until there is a report, by induction on them. -/
theorem attendReady {report : Option Report} {left : List Task} {waits : List Flight}
    (going
      : crawler.IsGoing wall workers urls origin handed reports ⟨pending, ready, waiting, world⟩)
    (comes : crawler.attendReady wall ready waiting world = (report, left, waits, after))
    : crawler.IsGoing wall workers urls origin handed (reports ++ report.toList)
        ⟨pending, left, waits, after⟩
      ∧ (report = none
        → left = []
          ∧ ∀ count,
              AreFunded (Crawling.inFlight ⟨pending, ready, waiting, world⟩) world count
              → AreFunded (Crawling.inFlight ⟨pending, left, waits, after⟩) after count) := by
  induction ready generalizing waiting world with
  | nil =>
      rw [Crawler.attendReady] at comes
      cases comes
      exact ⟨by simpa using going, fun _ => ⟨rfl, fun _ funded => funded⟩⟩
  | cons task ready ih =>
      rw [Crawler.attendReady] at comes
      rcases attended : crawler.attendTask wall task world with ⟨progress, next⟩
      rw [attended] at comes
      cases progress with
      | reported first =>
          cases comes
          exact ⟨going.finish attended, fun unreported => by cases unreported⟩
      | underWay flight =>
          obtain ⟨goes, funds⟩ := going.goOn attended
          obtain ⟨reaches, rest⟩ := ih goes comes
          refine ⟨reaches, fun unreported => ?_⟩
          obtain ⟨none, still⟩ := rest unreported
          exact ⟨none, fun count funded => still count (funds count funded)⟩

-----------------------------------------------------------------------------------------
-- Waiting flights
-----------------------------------------------------------------------------------------

/-- A flight that waits is woken by the end of its transfer, if there is one. -/
theorem exists_wake {flight : Flight}
    (going : crawler.IsGoing wall workers urls origin handed reports crawling)
    (member : flight ∈ crawling.waiting) (unstuck : ¬flight.IsStuck)
    : ∃ wake,
        flight.nextWake? crawling.world.now = some wake
        ∧ wake.moment ≤ flight.transfer.now := by
  have aboard := going.orderly.aboard flight (Crawling.mem_inFlight member)
  obtain ⟨count, leads⟩ := aboard.leads unstuck
  have early := (going.awaited flight member).resolve_left unstuck
  obtain ⟨wake, next, -, intime, -⟩ := nextWake?_of_lt leads aboard.started early
  exact ⟨wake, next, intime⟩

/-- Time goes on to the next instant of waking. -/
theorem advance {moment : Instant}
    (going : crawler.IsGoing wall workers urls origin handed reports crawling)
    (next : crawling.nextWake? = some moment)
    : crawler.IsGoing wall workers urls origin handed reports (crawling.advance moment) := by
  obtain ⟨⟨first, member, wake, awaited, same⟩, least⟩ := Crawling.nextWake?_spec next
  obtain ⟨later, -⟩ := nextWake?_spec awaited
  rw [same] at later
  refine ⟨going.began, ?_, ?_⟩
  · refine going.reached.tail ?_
    unfold Crawling.shift
    rw [Crawling.inFlight_advance]
    exact .pass (Nat.le_of_lt later)
  · intro flight member
    simp only [Crawling.advance, List.partition_eq_filter_filter] at member
    obtain ⟨waits, unwoken⟩ := List.mem_filter.mp member
    by_cases stuck : flight.IsStuck
    · exact .inl stuck
    · obtain ⟨wake, awaited, intime⟩ := going.exists_wake waits stuck
      have notNow : wake.moment ≠ moment := by simpa [awaited] using unwoken
      have onward := least flight waits wake awaited
      exact .inr (Nat.lt_of_lt_of_le (Nat.lt_of_le_of_ne onward notNow.symm) intime)

/-- Each instant of waking is one of those that suffice, unless something in flight is stuck. -/
theorem funded_advance {moment : Instant} (next : crawling.nextWake? = some moment)
    (funded : AreFunded crawling.inFlight crawling.world count)
    : (∃ flight, .flight flight ∈ crawling.inFlight ∧ flight.IsStuck)
      ∨ ∃ less,
          count = less + 1 ∧ AreFunded crawling.inFlight (crawling.advance moment).world less := by
  rcases funded with stuck | enough
  · exact .inl stuck
  · right
    obtain ⟨⟨first, member, wake, awaited, rfl⟩, -⟩ := Crawling.nextWake?_spec next
    obtain ⟨later, -, fewer⟩ := nextWake?_spec awaited
    obtain ⟨others, chosen⟩ := Multiset.exists_cons_of_mem (Crawling.mem_inFlight member)
    have rest
        : (others.map (Task.remaining wake.moment)).sum
          ≤ (others.map (Task.remaining crawling.world.now)).sum := by
      apply Multiset.sum_map_le_sum_map
      intro task _
      cases task with
      | url address => exact Nat.le_refl _
      | flight going => exact remaining_le going (Nat.le_of_lt later)
    rw [chosen, Multiset.map_cons, Multiset.sum_cons] at enough
    refine ⟨count - 1, ?_, .inr ?_⟩
    · simp only [Task.remaining] at enough
      omega
    · rw [chosen, Multiset.map_cons, Multiset.sum_cons]
      simp only [Crawling.advance, Task.remaining] at enough rest ⊢
      omega

/-- A crawl in which nobody will be woken has nothing in flight, or something is stuck. -/
theorem idle_or_stuck (going : crawler.IsGoing wall workers urls origin handed reports crawling)
    (attended : crawling.ready = []) (unwoken : crawling.nextWake? = none)
    : crawling.inFlight = 0
      ∨ ∃ flight, .flight flight ∈ crawling.inFlight ∧ flight.IsStuck := by
  by_cases empty : crawling.waiting = []
  · exact .inl (by simp [Crawling.inFlight, attended, empty])
  · right
    obtain ⟨flight, member⟩ := List.exists_mem_of_ne_nil _ empty
    refine ⟨flight, Crawling.mem_inFlight member, ?_⟩
    by_contra unstuck
    obtain ⟨wake, awaited, -⟩ := going.exists_wake member unstuck
    have moments := List.min?_eq_none_iff.mp unwoken
    have woken
        : wake.moment
          ∈ crawling.waiting.filterMap fun flight =>
              (flight.nextWake? crawling.world.now).map (·.moment) :=
      List.mem_filterMap.mpr ⟨flight, member, by simp [awaited]⟩
    rw [moments] at woken
    cases woken

/-- A crawl goes on to its next report. If there is none, nothing is in flight or something is
stuck, by induction on the instants at which tasks are woken.
-/
theorem awaitReport {fuel : Nat} {report : Option Report} {later : Crawling}
    (going : crawler.IsGoing wall workers urls origin handed reports crawling)
    (funded : AreFunded crawling.inFlight crawling.world fuel)
    (comes : crawler.awaitReport wall fuel crawling = (report, later))
    : crawler.IsGoing wall workers urls origin handed (reports ++ report.toList) later
      ∧ (report = none
        → later.inFlight = 0
          ∨ ∃ flight, .flight flight ∈ later.inFlight ∧ flight.IsStuck) := by
  induction fuel using Nat.strongRecOn generalizing crawling with
  | ind fuel ih =>
      rw [Crawler.awaitReport] at comes
      rcases attended
          : crawler.attendReady wall crawling.ready crawling.waiting crawling.world with
        ⟨first, left, waits, after⟩
      obtain ⟨goes, quiet⟩ := going.attendReady attended
      simp only [attended] at comes
      cases first with
      | some first =>
          cases comes
          exact ⟨goes, fun unreported => by cases unreported⟩
      | none =>
          obtain ⟨ended, funds⟩ := quiet rfl
          have funded := funds _ funded
          cases next : Crawling.nextWake? ⟨crawling.urls, left, waits, after⟩ with
          | none =>
              rw [next] at comes
              cases comes
              exact ⟨goes, fun _ => goes.idle_or_stuck ended next⟩
          | some moment =>
              have spends := funded_advance next funded
              rw [next] at comes
              cases fuel with
              | zero =>
                  -- No instant is left at which somebody could be woken.
                  cases comes
                  refine ⟨goes, fun _ => .inr (spends.resolve_right ?_)⟩
                  rintro ⟨less, spent, -⟩
                  cases spent
              | succ fuel =>
                  rw [Option.toList_none, List.append_nil] at goes
                  refine ih fuel (Nat.lt_succ_self fuel) (goes.advance next) ?_ comes
                  rw [Crawling.inFlight_advance]
                  rcases spends with stuck | ⟨less, spent, enough⟩
                  · exact .inl stuck
                  · cases spent
                    exact enough

-----------------------------------------------------------------------------------------
-- URLs that are handed out
-----------------------------------------------------------------------------------------

/-- A crawl goes on from where it is. -/
theorem here (going : crawler.IsGoing wall workers urls origin handed reports crawling)
    : crawler.IsGoing wall workers urls (crawling.shift handed reports) handed reports
        crawling where
  began := going.orderly
  reached := .refl
  awaited := going.awaited

/-- As many URLs are handed out as there are workers for, by induction on them. -/
theorem reaches_handOut {world : World} (uncancelled : world.isCancelled = false)
    (handed taken pending : List Url) (inFlight : Multiset Task) (reports : List Report)
    (room : inFlight.card + taken.length ≤ workers)
    : crawler.Reaches wall workers ⟨handed, taken ++ pending, inFlight, world, reports⟩
        ⟨handed ++ taken, pending, inFlight + (taken.map .url : List Task), world, reports⟩ := by
  induction taken generalizing handed inFlight with
  | nil => simpa using .refl
  | cons url taken ih =>
      rw [List.length_cons] at room
      have first
          : crawler.Step wall workers ⟨handed, url :: taken ++ pending, inFlight, world, reports⟩
              ⟨handed ++ [url], taken ++ pending, .url url ::ₘ inFlight, world, reports⟩ :=
        .handOut uncancelled (by dsimp only; omega) rfl
      have rest := ih (handed ++ [url]) (.url url ::ₘ inFlight) (by rw [Multiset.card_cons]; omega)
      have tasks
          : .url url ::ₘ inFlight + (taken.map .url : List Task)
            = inFlight + ((url :: taken).map .url : List Task) := by
        rw [List.map_cons, ← Multiset.cons_coe, Multiset.add_cons, Multiset.cons_add]
      rw [List.append_assoc, List.singleton_append, tasks] at rest
      exact .head first rest

/-- URLs are handed out while there are workers and the crawl is not cancelled. -/
theorem handOut (going : crawler.IsGoing wall workers urls origin handed reports crawling)
    : ∃ taken,
        crawler.IsGoing wall workers urls origin (handed ++ taken) reports
          (crawling.handOut workers)
        ∧ (0 < workers
          → (crawling.handOut workers).inFlight = 0
          → (crawling.handOut workers).urls = [] ∨ crawling.world.isCancelled = true) := by
  cases cancelled : crawling.world.isCancelled with
  | true =>
      have same : crawling.handOut workers = crawling := by
        simp [Crawling.handOut, cancelled]
      rw [same]
      exact ⟨[], by simpa using going, fun _ _ => .inr rfl⟩
  | false =>
      let count := workers - (crawling.ready.length + crawling.waiting.length)
      have same
          : crawling.handOut workers
            = { crawling with
                urls := crawling.urls.drop count
                ready := crawling.ready ++ (crawling.urls.take count).map .url } := by
        simp [Crawling.handOut, cancelled, count]
      have few := going.orderly.few
      rw [Crawling.shift, Crawling.card_inFlight] at few
      refine ⟨crawling.urls.take count, ⟨going.began, ?_, ?_⟩, ?_⟩
      · have tasks
            : (crawling.handOut workers).inFlight
              = crawling.inFlight + ((crawling.urls.take count).map .url : List Task) := by
          rw [same]
          apply Multiset.coe_eq_coe.mpr
          simp only [List.append_assoc]
          exact List.perm_append_comm.append_left _
        have room
            : crawling.inFlight.card + (crawling.urls.take count).length ≤ workers := by
          rw [Crawling.card_inFlight, List.length_take]
          omega
        have steps :=
          @reaches_handOut crawler wall workers crawling.world cancelled handed
            (crawling.urls.take count) (crawling.urls.drop count) crawling.inFlight reports room
        rw [List.take_append_drop] at steps
        refine going.reached.trans ?_
        unfold Crawling.shift
        rw [tasks, same]
        exact steps
      · rw [same]
        exact going.awaited
      · intro manned idle
        left
        rw [← Multiset.card_eq_zero, Crawling.card_inFlight, same] at idle
        simp only [List.length_append, List.length_map, List.length_take] at idle
        rw [same]
        exact List.drop_eq_nil_of_le (by omega)

-----------------------------------------------------------------------------------------
-- From report to report
-----------------------------------------------------------------------------------------

/-- The instants that a crawl may go through suffice for all that is in flight. -/
theorem areFunded_instants (crawling : Crawling)
    : AreFunded crawling.inFlight crawling.world crawling.instants := by
  right
  have ready
      : (crawling.ready.map (Task.remaining crawling.world.now)).sum
        ≤ (crawling.ready.map Task.wakes).sum := by
    apply List.sum_le_sum
    intro task _
    cases task with
    | url address => exact Nat.le_refl _
    | flight going => exact List.length_filter_le _ _
  have waiting
      : (crawling.waiting.map (Task.remaining crawling.world.now ∘ .flight)).sum
        ≤ (crawling.waiting.map (·.transfer.wakes.length)).sum := by
    apply List.sum_le_sum
    intro flight _
    exact List.length_filter_le _ _
  have total
      : crawling.instants
        = (crawling.ready.map Task.wakes).sum
          + (crawling.waiting.map (·.transfer.wakes.length)).sum
          + allowance crawling.world.replies := by
    simp only [Crawling.instants, List.sum_eq_foldl, allowance]
    rfl
  rw [total, Crawling.inFlight, Multiset.map_coe, Multiset.sum_coe, List.map_append,
    List.sum_append, List.map_map]
  omega

/-- A crawl goes on to its next report. If there is none, the crawl is over or held up. -/
theorem nextReport {report : Option Report} {later : Crawling} (manned : 0 < workers)
    (going : crawler.IsGoing wall workers urls origin handed reports crawling)
    (comes : crawler.nextReport wall workers crawling = (report, later))
    : ∃ taken,
        crawler.IsGoing wall workers urls origin (handed ++ taken) (reports ++ report.toList) later
        ∧ (report = none
          → (later.shift (handed ++ taken) reports).IsOver
            ∨ (later.shift (handed ++ taken) reports).IsHeldUp) := by
  obtain ⟨taken, staffed, busy⟩ := going.handOut
  have funded := areFunded_instants (crawling.handOut workers)
  obtain ⟨reached, -⟩ := staffed.awaitReport funded comes
  obtain ⟨onward, quiet⟩ := staffed.here.awaitReport funded comes
  refine ⟨taken, reached, fun unreported => ?_⟩
  subst unreported
  rw [Option.toList_none, List.append_nil] at onward
  rcases quiet rfl with idle | ⟨flight, member, stuck⟩
  · left
    -- Nothing was reported, so nothing was in flight before, and hence nothing is to be handed out.
    have before := staffed.orderly
    have after := onward.orderly
    have pending : later.urls = (crawling.handOut workers).urls :=
      List.append_cancel_left (after.split.trans before.split.symm)
    have idle : later.inFlight = 0 := idle
    have none : (crawling.handOut workers).inFlight = 0 := by
      have same := before.length_handed.trans after.length_handed.symm
      simp only [Crawling.shift, idle, Multiset.card_zero] at same
      exact Multiset.card_eq_zero.mp (by omega)
    refine ⟨idle, ?_⟩
    rcases busy manned none with all | cancelled
    · exact .inl (pending.trans all)
    · exact .inr ((before.isFollowed onward.reached).cancelled cancelled).1
  · exact .inr (onward.orderly.isHeldUp member stuck)

/-- A flight that waits has to wait after a cancellation as well: it hears of that an instant later.
-/
theorem isAwaited_cancelFlight {flight : Flight} (aboard : crawler.IsAboard world flight)
    (uncancelled : world.isCancelled = false) (awaited : flight.IsAwaited world.now)
    : (crawler.cancelFlight (world.now + 1) flight).IsAwaited world.now := by
  obtain ⟨cancelAt, same, guarded⟩ := aboard.guarded
  have shared : cancelAt = world.cancelAt := by
    rcases guarded with shared | ⟨-, cancelled⟩
    · exact shared
    · rw [uncancelled] at cancelled
      cases cancelled
  have later : ∀ other ∈ cancelAt, world.now + 1 ≤ other := by
    intro other set
    rw [shared, Option.mem_def] at set
    have early : world.now < other := by
      simpa [World.isCancelled, Clock.isBefore, set] using uncancelled
    exact early
  rcases Transfer.run_cancelled_or_same (α := Float) later crawler.fetcher.config flight.launch
      flight.reply with late | unchanged
  · exact .inr late
  · rcases awaited with ⟨why, stuck⟩ | early
    · left
      refine ⟨why, ?_⟩
      rw [same] at stuck
      exact (congrArg Transfer.ending unchanged).trans stuck
    · right
      rw [same] at early
      exact Nat.lt_of_lt_of_eq early (congrArg Transfer.now unchanged).symm

/-- A crawl may be cancelled whenever it is. -/
theorem cancel (going : crawler.IsGoing wall workers urls origin handed reports crawling)
    : crawler.IsGoing wall workers urls origin handed reports (crawler.cancel crawling) := by
  unfold Crawler.cancel
  dsimp only
  split
  · exact going
  · rename_i uncancelled
    rw [Bool.not_eq_true] at uncancelled
    refine ⟨going.began, going.reached.tail ?_, ?_⟩
    · have halves
          : crawling.inFlight
            = (crawling.ready : Multiset Task) + (crawling.waiting.map .flight : List Task) :=
        (Multiset.coe_add _ _).symm
      have step :=
        @Step.cancel crawler wall workers (crawling.shift handed reports) _ _ uncancelled halves
      have tasks
          : (crawling.ready : Multiset Task).map (crawler.cancelTask crawling.world.now)
              + ((crawling.waiting.map .flight : List Task) : Multiset Task).map
                  (crawler.cancelTask (crawling.world.now + 1))
            = Crawling.inFlight
                { crawling with
                  ready := crawling.ready.map (crawler.cancelTask crawling.world.now)
                  waiting :=
                    crawling.waiting.map (crawler.cancelFlight (crawling.world.now + 1)) } := by
        rw [Multiset.map_coe, Multiset.map_coe, Multiset.coe_add, Crawling.inFlight, List.map_map,
          List.map_map]
        rfl
      unfold Crawling.shift at step ⊢
      rw [tasks] at step
      exact step
    · intro flight member
      obtain ⟨before, waits, rfl⟩ := List.mem_map.mp member
      have aboard := going.orderly.aboard before (Crawling.mem_inFlight waits)
      exact isAwaited_cancelFlight aboard uncancelled (going.awaited before waits)

/-- A crawl gives reports until it is over or held up, by induction on those that are still to come:
of as many URLs no more can be.
-/
theorem exists_last {fuel : Nat} {rest : List Report} (manned : 0 < workers)
    (going : crawler.IsGoing wall workers urls origin handed reports crawling)
    (left : reports.length + fuel = urls.length) (cancelAfter : Option Nat)
    (comes : crawler.reports wall workers fuel cancelAfter crawling = (rest, after))
    : ∃ last,
        crawler.Reaches wall workers origin last
        ∧ last.reports = reports ++ rest
        ∧ last.world = after
        ∧ (last.IsOver ∨ last.IsHeldUp) := by
  induction fuel generalizing handed reports crawling cancelAfter rest with
  | zero =>
      rw [Crawler.reports] at comes
      cases comes
      refine ⟨_, going.reached, (List.append_nil _).symm, rfl, .inl ?_⟩
      -- As many reports as URLs were given, so that none is in flight or still to be handed out.
      have counted : reports.length + crawling.inFlight.card = handed.length :=
        going.orderly.length_handed
      have split : (handed ++ crawling.urls).length = urls.length :=
        congrArg List.length going.orderly.split
      rw [List.length_append] at split
      have idle : crawling.inFlight.card = 0 := by omega
      have handedAll : crawling.urls.length = 0 := by omega
      exact ⟨Multiset.card_eq_zero.mp idle, .inl (List.eq_nil_of_length_eq_zero handedAll)⟩
  | succ fuel ih =>
      rw [Crawler.reports] at comes
      rcases next : crawler.nextReport wall workers crawling with ⟨report, later⟩
      obtain ⟨taken, goes, quiet⟩ := going.nextReport manned next
      rw [next] at comes
      cases report with
      | none =>
          cases comes
          rw [Option.toList_none, List.append_nil] at goes
          exact ⟨_, goes.reached, (List.append_nil _).symm, rfl, quiet rfl⟩
      | some report =>
          dsimp only at comes
          have onward
              : crawler.IsGoing wall workers urls origin (handed ++ taken) (reports ++ [report])
                  (if cancelAfter == some 1 then crawler.cancel later else later) := by
            split
            · exact goes.cancel
            · exact goes
          rcases remaining
              : crawler.reports wall workers fuel (cancelAfter.map (· - 1))
                  (if cancelAfter == some 1 then crawler.cancel later else later) with
            ⟨others, world⟩
          rw [remaining] at comes
          cases comes
          have count : (reports ++ [report]).length + fuel = urls.length := by
            rw [List.length_append, List.length_singleton]
            omega
          obtain ⟨last, reached, given, same, ends⟩ := ih onward count _ remaining
          exact ⟨last, reached, by simpa using given, same, ends⟩

end IsGoing

end Crawler

-----------------------------------------------------------------------------------------
-- The reports of a whole crawl
-----------------------------------------------------------------------------------------

/-- What has been reported at the end of a crawl of URLs: the first of them, and all if the crawl
was not cancelled, were handed out, and there is one report for each time that a URL was.
-/
structure Shift.HasReported (urls : List Url) (shift : Shift) : Prop where
  first : shift.handed <+: urls
  all : shift.world.isCancelled = false → shift.handed = urls
  each : (shift.reports.map Report.url).Perm (shift.handed.map Url.text)

namespace Crawler

theorem IsOrderly.hasReported {crawler : Crawler} {urls : List Url} {workers : Nat} {shift : Shift}
    (orderly : crawler.IsOrderly urls workers shift) (ended : shift.IsOver)
    : shift.HasReported urls where
  first := ⟨shift.pending, orderly.split⟩
  all := by
    intro uncancelled
    rcases ended.2 with all | cancelled
    · rw [← orderly.split, all, List.append_nil]
    · rw [uncancelled] at cancelled
      cases cancelled
  each := orderly.perm_of_isOver ended

/-- A crawl by any number of workers reports on each URL that it hands out exactly once, in whatever
order tasks are looked after and time passes, and whenever it is cancelled. There are never more
tasks in flight than workers; nothing is handed out once the crawl is cancelled, and no report is
lost; and from wherever it is the crawl can come to its end, unless a transfer never ends. Every
run is such a crawl up to its end, also if it is cancelled after any number of reports.
-/
theorem run_reports_once (crawler : Crawler) (wall : Timestamp) (urls : List Url) {workers : Nat}
    (manned : 0 < workers) (world : World)
    : (∀ shift,
        crawler.Reaches wall workers (.start urls world) shift
        → shift.inFlight.card ≤ workers
          ∧ (shift.IsOver → shift.HasReported urls)
          ∧ (world.isCancelled = true → shift.handed = [])
          ∧ (∀ later,
              crawler.Reaches wall workers shift later
              → shift.reports <+: later.reports
                ∧ (shift.world.isCancelled = true → later.handed = shift.handed))
          ∧ ∃ last,
              crawler.Reaches wall workers shift last ∧ (last.IsOver ∨ last.IsHeldUp))
      ∧ ∀ cancelAfter,
          ∃ last,
            crawler.Reaches wall workers (.start urls world) last
            ∧ crawler.run urls workers cancelAfter wall world = (last.reports, last.world)
            ∧ (last.IsOver ∨ last.IsHeldUp) := by
  have began := isOrderly_start crawler urls workers world
  constructor
  · intro shift reached
    have orderly := began.reach reached
    refine ⟨orderly.few, orderly.hasReported, ?_, ?_, orderly.exists_isOver manned⟩
    · intro cancelled
      exact ((began.isFollowed reached).cancelled cancelled).2
    · intro later onward
      have follows := orderly.isFollowed onward
      exact ⟨follows.reports, fun cancelled => (follows.cancelled cancelled).2⟩
  · intro cancelAfter
    have going
        : crawler.IsGoing wall workers urls (.start urls world) [] [] ⟨urls, [], [], world⟩ :=
      ⟨began, .refl, by simp⟩
    obtain ⟨last, reached, given, same, ends⟩ :=
      going.exists_last manned (Nat.zero_add _) cancelAfter rfl
    refine ⟨last, reached, ?_, ends⟩
    rw [given, same, List.nil_append]
    rfl

/-- Two workers that are cancelled after the first report report on both URLs that were handed out,
and the third one, which is the first one again, is not.
-/
theorem run_reports_once_cancelled
    : let url (host : String) : Url :=
        ⟨"http", "", none, true, some (.domain host), none, .segments [""], none, none⟩
      let urls := [url "a", url "b", url "a"]
      let crawler : Crawler := ⟨⟨Fetch.FetchConfig.standard, .empty, ⟨[]⟩⟩, ⟨false, true⟩⟩
      let world : World :=
        ⟨.empty, ⟨.empty, ⟨toString, 0⟩⟩,
          [⟨9, .response ⟨200, .http11, .empty⟩ [.stall]⟩,
            ⟨0, .response ⟨200, .http11, .empty⟩ [.chunk (Text.utf8 "welcome")]⟩],
          [], 0, 0, none⟩
      0 < 2
      ∧ ∃ last,
          crawler.Reaches ⟨0, 0⟩ 2 (.start urls world) last
          ∧ crawler.run urls 2 (some 1) ⟨0, 0⟩ world = (last.reports, last.world)
          ∧ (last.IsOver ∨ last.IsHeldUp)
          ∧ last.reports.map Report.url = ["http://b/", "http://a/"] := by
  intro url urls crawler world
  obtain ⟨last, reached, same, ends⟩ :=
    (run_reports_once crawler ⟨0, 0⟩ urls (by decide : 0 < 2) world).2 (some 1)
  refine ⟨by decide, last, reached, same, ends, ?_⟩
  have given : (crawler.run urls 2 (some 1) ⟨0, 0⟩ world).1 = last.reports := by rw [same]
  rw [← given]
  decide +kernel

end Crawler

end WebHarvest.Crawl
