import Mathlib.Algebra.BigOperators.Group.Multiset.Defs
import WebHarvest.Proofs.Archive.Completeness
import WebHarvest.Proofs.Crawl.Alone

/-! What comes of a task that is looked after, whichever it is: it stays with its URL, takes no
time, and is either reported or under way, and then no wakes are used up but those that replies
allow.
-/

namespace WebHarvest.Crawl

open Calendar (Timestamp)
open Clock (Instant Leads)
open Fetch (Fetcher Reply Transfer)

-----------------------------------------------------------------------------------------
-- The URL of a task
-----------------------------------------------------------------------------------------

/-- The text of the URL of a flight. -/
def Flight.text (flight : Flight) : String :=
  flight.launch.item.url.text

/-- The text of the URL that a task is about. -/
def Task.text : Task → String
  | .url address => address.text
  | .flight going => going.text

/-- The text of the URL that is under way or reported on. -/
def Progress.text : Progress → String
  | .underWay flight => flight.text
  | .reported report => report.url

theorem url_screen (item : CrawlItem) (shared : Fetch.Shared)
    : (Fetcher.screen item shared).2.1.url = item.url := by
  unfold Fetcher.screen
  split
  · rfl
  · split
    · unfold CrawlItem.setStatus
      split <;> rfl
    · split <;> rfl

theorem url_setStatus (item : CrawlItem) (status : FetchStatus)
    : (item.setStatus status).url = item.url := by
  obtain ⟨noted, same⟩ := Fetch.exists_setStatus item status
  rw [same]

/-- An attempt leaves the URL of its item, by cases of how the transfer ended. -/
theorem url_of_land? {fetcher : Fetcher} {launch : Fetch.Launch} {transfer : Transfer Float}
    {wall : Timestamp} {shared after : Fetch.Shared} {item : CrawlItem} {state : Fetch.FetchState}
    (landed : fetcher.land? launch transfer wall shared = some (item, after, state))
    : item.url = launch.item.url := by
  obtain ⟨why, -, rfl, -⟩ | ⟨head, why, -, rfl, -⟩ | ⟨head, extent, -, made, -⟩ :=
    Fetch.cases_of_land? landed
  · exact url_setStatus _ _
  · exact (url_setStatus _ _).trans (url_setStatus _ _)
  · have same : (fetcher.landRecorded launch transfer.recorder head extent wall shared).1 = item :=
      congrArg (·.1) made
    obtain ⟨_, _, _, _, _, shape⟩ :=
      Fetch.landRecorded_shape fetcher launch transfer.recorder head extent wall shared
    rw [← same, shape]
    cases extent <;> exact url_setStatus _ _

/-- The report on an item that is archived is about its URL. -/
theorem url_conclude (crawler : Crawler) (item : CrawlItem) (state : Fetch.FetchState)
    (wall : Timestamp) (world : World)
    : (crawler.conclude item state wall world).1.url = item.url.text :=
  let visit : Archive.Visit := ⟨crawler.policy, wall, world.archiving⟩
  congrArg Url.text (visit.archivedFrom_apply item).url

-----------------------------------------------------------------------------------------
-- Flights under way
-----------------------------------------------------------------------------------------

namespace Flight

/-- The transfer never ends. -/
def IsStuck (flight : Flight) : Prop :=
  ∃ why, flight.transfer.ending = .stuck why

/-- The transfer has not ended by an instant. -/
def IsAwaited (flight : Flight) (now : Instant) : Prop :=
  flight.IsStuck ∨ now < flight.transfer.now

end Flight

/-- The wakes that replies allow. -/
def allowance (replies : List Reply) : Nat :=
  (replies.map Reply.wakes).sum

/-- The wakes that a task takes after an instant. A URL that was handed out does not wait. -/
def Task.remaining (now : Instant) : Task → Nat
  | .url _ => 0
  | .flight going => Crawler.remaining going now

/-- So many wakes suffice for tasks and for the replies that are left, if all tasks are to end. -/
def AreFunded (tasks : Multiset Task) (world : World) (count : Nat) : Prop :=
  (∃ flight, .flight flight ∈ tasks ∧ flight.IsStuck)
  ∨ allowance world.replies + (tasks.map (Task.remaining world.now)).sum ≤ count

theorem areFunded_zero {world : World} {count : Nat}
    : AreFunded 0 world count ↔ allowance world.replies ≤ count := by
  simp [AreFunded]

theorem areFunded_url {address : Url} {world : World} {count : Nat}
    : AreFunded {.url address} world count ↔ allowance world.replies ≤ count := by
  simp [AreFunded, Task.remaining]

theorem areFunded_flight {flight : Flight} {world : World} {count : Nat}
    : AreFunded {.flight flight} world count
      ↔ flight.IsStuck
        ∨ allowance world.replies + Crawler.remaining flight world.now ≤ count := by
  simp [AreFunded, Task.remaining]

/-- What is in flight of a task that was looked after. -/
def Progress.tasks : Progress → Multiset Task
  | .underWay flight => {.flight flight}
  | .reported _ => 0

namespace World

variable {world later : World}

theorem isCancelled_congr (now : later.now = world.now) (cancelAt : later.cancelAt = world.cancelAt)
    : later.isCancelled = world.isCancelled := by
  rw [isCancelled, isCancelled, now, cancelAt]

/-- A crawl that has been cancelled stays so while time passes. -/
theorem isCancelled_of_le (cancelled : world.isCancelled = true) (onward : world.now ≤ later.now)
    (cancelAt : later.cancelAt = world.cancelAt)
    : later.isCancelled = true := by
  unfold isCancelled at cancelled ⊢
  rw [cancelAt]
  cases instant : world.cancelAt with
  | none => simp [instant, Clock.isBefore] at cancelled
  | some instant =>
      simp only [instant, Clock.isBefore, Bool.not_eq_true', decide_eq_false_iff_not,
        Nat.not_lt] at cancelled ⊢
      exact Nat.le_trans cancelled onward

end World

namespace Crawler

variable {crawler : Crawler} {wall : Timestamp} {world later : World} {flight : Flight}

/-- A flight has begun, and its transfer is that of its request: under the world's cancellation, or
under some other one if the crawl has been cancelled.
-/
structure IsAboard (crawler : Crawler) (world : World) (flight : Flight) : Prop where
  started : flight.launch.started ≤ world.now
  guarded
    : ∃ cancelAt,
        flight.transfer = crawler.transfer flight.launch flight.reply cancelAt
        ∧ (cancelAt = world.cancelAt ∨ cancelAt.isSome ∧ world.isCancelled = true)

/-- A flight stays aboard while time passes. -/
theorem IsAboard.pass (aboard : crawler.IsAboard world flight) (onward : world.now ≤ later.now)
    (cancelAt : later.cancelAt = world.cancelAt)
    : crawler.IsAboard later flight where
  started := Nat.le_trans aboard.started onward
  guarded := by
    obtain ⟨instant, same, guarded⟩ := aboard.guarded
    refine ⟨instant, same, ?_⟩
    rcases guarded with shared | ⟨set, cancelled⟩
    · exact .inl (shared.trans cancelAt.symm)
    · exact .inr ⟨set, World.isCancelled_of_le cancelled onward cancelAt⟩

/-- The wakes of a flight lead from its start to its end, if it comes to one. -/
theorem IsAboard.leads (aboard : crawler.IsAboard world flight) (unstuck : ¬flight.IsStuck)
    : ∃ count, Leads flight.launch.started flight.transfer.now flight.transfer.wakes count := by
  obtain ⟨cancelAt, same, -⟩ := aboard.guarded
  have led := Transfer.isLed_run (α := Float) crawler.fetcher.config flight.launch cancelAt
    flight.reply
  have ending : ∀ why, flight.transfer.ending ≠ .stuck why :=
    fun why stuck => unstuck ⟨why, stuck⟩
  rw [same] at ending ⊢
  exact ⟨_, led ending⟩

/-- Nothing comes only of a transfer that never ends. -/
theorem isStuck_of_land? {fetcher : Fetcher} {shared : Fetch.Shared}
    (unlanded : fetcher.land? flight.launch flight.transfer wall shared = none)
    : flight.IsStuck := by
  unfold Fetcher.land? at unlanded
  split at unlanded
  · cases unlanded
  · cases unlanded
  · cases unlanded
  · rename_i why stuck
    exact ⟨why, stuck⟩

/-- The flight of an attempt that is made now is aboard, and takes only wakes that its reply allows.
-/
theorem flightOf_isAboard (crawler : Crawler) (number : Nat) (item : CrawlItem) (isRetry : Bool)
    (earlier : List Instant) (wall : Timestamp) (world : World)
    : let departed := crawler.depart item wall world
      let flight := crawler.flightOf number item isRetry earlier wall world
      crawler.IsAboard departed flight
      ∧ ∀ count,
          allowance world.replies ≤ count → AreFunded {.flight flight} departed count := by
  intro departed flight
  obtain ⟨replies, requests, shape⟩ := depart_shape crawler item wall world
  have departs : departed = { world with replies, requests } := shape
  refine ⟨⟨by simp [flight, flightOf, Fetcher.launch, departs], world.cancelAt, rfl, .inl ?_⟩, ?_⟩
  · rw [departs]
  · intro total enough
    rw [areFunded_flight]
    by_cases stuck : flight.IsStuck
    · exact .inl stuck
    · obtain ⟨count, leads, allowed⟩ :=
        leads_flightOf number isRetry earlier fun why ending => stuck ⟨why, ending⟩
      have few : remaining flight departed.now ≤ count :=
        Nat.le_trans (List.length_filter_le _ _) leads.few
      exact .inr (Nat.le_trans (Nat.le_trans (Nat.add_le_add_left few _) allowed) enough)

-----------------------------------------------------------------------------------------
-- What comes of a task
-----------------------------------------------------------------------------------------

/-- What comes of a task that is looked after in a world: it stays with its URL, no time passes, and
if it is under way it is awaited. As many wakes suffice as did before.
-/
structure Attended (crawler : Crawler) (task : Task) (world : World) (result : Progress × World)
    : Prop where
  text : result.1.text = task.text
  now : result.2.now = world.now
  cancelAt : result.2.cancelAt = world.cancelAt
  aboard
    : ∀ flight,
        result.1 = .underWay flight
        → crawler.IsAboard result.2 flight ∧ flight.IsAwaited result.2.now
  funded
    : ∀ count, AreFunded {task} world count → AreFunded result.1.tasks result.2 count

/-- What comes of a request at once comes of the task for which it is sent. -/
theorem Attended.of_depart (known : World) {task own : Task} {item : CrawlItem}
    {result : Progress × World} (same : own.text = task.text) (now : known.now = world.now)
    (cancelAt : known.cancelAt = world.cancelAt)
    (funded
      : ∀ count,
          AreFunded {task} world count
          → AreFunded {own} (crawler.depart item wall known) count)
    (attended : Attended crawler own (crawler.depart item wall known) result)
    : Attended crawler task world result where
  text := attended.text.trans same
  now := by
    obtain ⟨replies, requests, departed⟩ := depart_shape crawler item wall known
    rw [attended.now, departed, ← now]
  cancelAt := by
    obtain ⟨replies, requests, departed⟩ := depart_shape crawler item wall known
    rw [attended.cancelAt, departed, ← cancelAt]
  aboard := attended.aboard
  funded count enough := attended.funded count (funded count enough)

/-- A flight that has not come to its end stays under way. -/
theorem attended_underWay (aboard : crawler.IsAboard world flight)
    (awaited : flight.IsAwaited world.now)
    : Attended crawler (.flight flight) world (.underWay flight, world) where
  text := rfl
  now := rfl
  cancelAt := rfl
  aboard := by
    rintro _ ⟨⟩
    exact ⟨aboard, awaited⟩
  funded _ enough := enough

/-- A flight is looked after, by cases: it has not come to its end, it is followed by another
attempt, or its item is archived.
-/
theorem lookAfter_attended {retry : Flight → World → Progress × World}
    (retries
      : flight.isRetry = false
        → ∀ later after,
            later.isRetry = true
            → crawler.IsAboard after later
            → Attended crawler (.flight later) after (retry later after))
    (aboard : crawler.IsAboard world flight)
    : Attended crawler (.flight flight) world (crawler.lookAfter wall retry flight world) := by
  unfold lookAfter
  split
  · rename_i unlanded
    exact attended_underWay aboard (.inl (isStuck_of_land? unlanded))
  · rename_i item shared state landed
    have own : item.url.text = flight.text := congrArg Url.text (url_of_land? landed)
    have allowed {count : Nat} (funded : AreFunded {.flight flight} world count)
        : allowance world.replies ≤ count := by
      rcases areFunded_flight.mp funded with ⟨why, stuck⟩ | enough
      · simp [Fetcher.land?, stuck] at landed
      · exact Nat.le_trans (Nat.le_add_right _ _) enough
    split
    · rename_i early
      exact attended_underWay aboard (.inr early)
    · simp only [takeOff_eq]
      let settled := { world with shared }
      split
      · rename_i wanted
        have first : flight.isRetry = false := by
          simp only [wantsRetry, Bool.and_eq_true, Bool.not_eq_true'] at wanted
          exact wanted.1.2
        obtain ⟨departs, funds⟩ :=
          flightOf_isAboard crawler flight.number item.reset true flight.line wall settled
        have next := retries first _ _ rfl departs
        refine next.of_depart settled ?_ rfl rfl ?_
        · exact own
        · exact fun count funded => funds count (allowed funded)
      · exact
          { text := (url_conclude crawler item state wall settled).trans own
            now := rfl
            cancelAt := rfl
            aboard := by
              rintro _ ⟨⟩
            funded := fun _ funded => areFunded_zero.mpr (allowed funded) }

/-- So is any task, by cases: a URL that is not fetched, one whose request is sent, or a flight. -/
theorem attendTask_attended (crawler : Crawler) (wall : Timestamp) {task : Task}
    (aboard : ∀ flight, task = .flight flight → crawler.IsAboard world flight)
    : Attended crawler task world (crawler.attendTask wall task world) := by
  have attends (first : Flight) (known : World) (aboard : crawler.IsAboard known first)
      : Attended crawler (.flight first) known (crawler.attend wall first known) := by
    refine lookAfter_attended ?_ aboard
    intro _ second after retried aboard
    -- There is no third attempt.
    exact lookAfter_attended (fun last => by simp [last] at retried) aboard
  cases task with
  | flight going => exact attends going world (aboard going rfl)
  | url address =>
      simp only [attendTask, start, takeOff_eq]
      let known :=
        { world with
          shared := (Fetcher.screen (.new address) world.shared).2.2
          taken := world.taken + 1 }
      let item := (Fetcher.screen (.new address) world.shared).2.1
      have own : item.url = address := url_screen (.new address) world.shared
      split
      · obtain ⟨departs, funds⟩ :=
          flightOf_isAboard crawler world.taken item false [world.now] wall known
        have next := attends _ _ departs
        refine next.of_depart known ?_ rfl rfl ?_
        · exact congrArg Url.text own
        · exact fun count funded => funds count (areFunded_url.mp funded)
      · exact
          { text := congrArg Url.text own
            now := rfl
            cancelAt := rfl
            aboard := by
              rintro _ ⟨⟩
            funded := fun _ funded => areFunded_zero.mpr (areFunded_url.mp funded) }

end Crawler

end WebHarvest.Crawl
