import Mathlib.Algebra.GroupWithZero.Nat
import WebHarvest.Crawl.Run
import WebHarvest.Proofs.Fetch.Attempted
import WebHarvest.Proofs.Fetch.Waking

/-! One URL that is crawled while nothing else happens. Going from one instant of waking to the next
comes to the same as making the attempts one after the other, each from its start to its end.
-/

namespace WebHarvest.Crawl

open Calendar (Timestamp)
open Clock (Instant Leads)
open Fetch (Execution Fetcher Reply Transfer)

-----------------------------------------------------------------------------------------
-- The crawl of one URL
-----------------------------------------------------------------------------------------

/-- A crawl in which there is one task, and it is ready. -/
def Crawling.only (task : Task) (world : World) : Crawling :=
  ⟨[], [task], [], world⟩

namespace Crawler

variable (crawler : Crawler)

/-- Crawls one URL. There is no report if a transfer never ends. -/
def carryOut (url : Url) (wall : Timestamp) (world : World) : Option Report × World :=
  let crawling := Crawling.only (.url url) world
  let (report, crawling) := crawler.awaitReport wall crawling.instants crawling
  (report, crawling.world)

/-- What comes of an attempt on an item, made from now on. -/
def attempt? (item : CrawlItem) (wall : Timestamp) (world : World) : Option (Execution Float) :=
  crawler.fetcher.execute? item world.shared world.replies wall world.now world.cancelAt

/-- The world after the request for an item was sent, unless the crawl has been cancelled. -/
def depart (item : CrawlItem) (wall : Timestamp) (world : World) : World :=
  let launch := crawler.fetcher.launch world.shared.servers item wall world.now
  if launch.isSent world.cancelAt then
    { world with
      replies := world.replies.tail
      requests := world.requests ++ [launch.request.envelope] }
  else world

/-- The world after an attempt on an item. -/
def arrive (item : CrawlItem) (wall : Timestamp) (world : World) (execution : Execution Float)
    : World :=
  { crawler.depart item wall world with shared := execution.shared, now := execution.now }

/-- Archives what came of an attempt and reports on it. -/
def settle (execution : Execution Float) (wall : Timestamp) (world : World)
    : Option Report × World :=
  let (report, world) := crawler.conclude execution.item execution.state wall world
  (some report, world)

/-- Makes one attempt on an item, and archives what comes of it. -/
def once (item : CrawlItem) (wall : Timestamp) (world : World) : Option Report × World :=
  match crawler.attempt? item wall world with
  | none => (none, crawler.depart item wall world)
  | some execution => crawler.settle execution wall (crawler.arrive item wall world execution)

/-- Whether an attempt is followed by another one: the server has asked for credentials, there are
some, and the crawl is not cancelled by the end of the attempt.
-/
def retries (execution : Execution Float) (cancelAt : Option Instant) : Bool :=
  execution.item.status.bind FetchStatus.http? == some 401 && execution.item.hasCredentials
    && Clock.isBefore execution.now cancelAt

/-- Makes one attempt on an item, or two, and archives what comes of the last one. -/
def attempts (item : CrawlItem) (wall : Timestamp) (world : World) : Option Report × World :=
  match crawler.attempt? item wall world with
  | none => (none, crawler.depart item wall world)
  | some first =>
    let later := crawler.arrive item wall world first
    if retries first world.cancelAt then crawler.once first.item.reset wall later
    else crawler.settle first wall later

/-- Crawls one URL attempt by attempt. -/
def crawl (url : Url) (wall : Timestamp) (world : World) : Option Report × World :=
  let (isFetched, item, shared) := Fetcher.screen (.new url) world.shared
  let world := { world with shared, taken := world.taken + 1 }
  if isFetched then crawler.attempts item wall world
  else (some (.ofItem item none .skipped), world)

-----------------------------------------------------------------------------------------
-- One task on its own
-----------------------------------------------------------------------------------------

variable {crawler} {wall : Timestamp} {task : Task} {world after : World} {flight : Flight}

theorem awaitReport_of_reported {report : Report}
    (attended : crawler.attendTask wall task world = (.reported report, after)) (fuel : Nat)
    : crawler.awaitReport wall fuel (.only task world) = (some report, ⟨[], [], [], after⟩) := by
  rw [awaitReport]
  simp [Crawling.only, attendReady, attended]

/-- A flight that is under way is looked after again when it is woken next. -/
theorem awaitReport_of_underWay
    (attended : crawler.attendTask wall task world = (.underWay flight, after)) (fuel : Nat)
    : crawler.awaitReport wall fuel (.only task world)
      = match flight.nextWake? after.now, fuel with
        | some wake, fuel + 1 =>
          crawler.awaitReport wall fuel (.only (.flight flight) { after with now := wake.moment })
        | _, _ => (none, ⟨[], [], [flight], after⟩) := by
  have next
      : Crawling.nextWake? ⟨[], [], [flight], after⟩
        = (flight.nextWake? after.now).map (·.moment) := by
    cases awaited : flight.nextWake? after.now <;> simp [Crawling.nextWake?, awaited]
  rw [awaitReport]
  simp only [Crawling.only, attendReady, attended, List.nil_append]
  rw [next]
  cases awaited : flight.nextWake? after.now with
  | none => cases fuel <;> rfl
  | some wake =>
      cases fuel with
      | zero => rfl
      | succ fuel => simp [Crawling.advance, wakingOrder, awaited]

-----------------------------------------------------------------------------------------
-- From one wake to the next
-----------------------------------------------------------------------------------------

/-- How often a flight is still woken after an instant. -/
def remaining (flight : Flight) (now : Instant) : Nat :=
  (flight.transfer.wakes.filter (now < ·.moment)).length

/-- The later it is the fewer wakes are left. -/
theorem remaining_le (flight : Flight) {now later : Instant} (onward : now ≤ later)
    : remaining flight later ≤ remaining flight now := by
  simp only [remaining, ← List.countP_eq_length_filter]
  apply List.countP_mono_left
  intro wake _ awaited
  simp only [decide_eq_true_eq] at awaited ⊢
  exact Nat.lt_of_le_of_lt onward awaited

/-- The next wake of a flight is one of those of its transfer, and fewer are left after it. -/
theorem nextWake?_spec {now : Instant} {wake : Clock.Wake}
    (next : flight.nextWake? now = some wake)
    : now < wake.moment
      ∧ (∃ listed ∈ flight.transfer.wakes, listed.moment = wake.moment)
      ∧ remaining flight wake.moment < remaining flight now := by
  obtain ⟨last, found, rfl⟩ := Option.map_eq_some_iff.mp next
  have among := List.mem_of_getLast? found
  obtain ⟨listed, later⟩ := List.mem_filter.mp among
  have later : now < last.moment := by simpa using later
  refine ⟨later, ⟨last, listed, rfl⟩, ?_⟩
  -- The wakes after this one are among those after `now`, and this one is not.
  have fewer
      : flight.transfer.wakes.filter (last.moment < ·.moment)
        = (flight.transfer.wakes.filter (now < ·.moment)).filter (last.moment < ·.moment) := by
    rw [List.filter_filter]
    apply List.filter_congr
    intro other _
    by_cases following : last.moment < other.moment
    · simp [following, Nat.lt_trans later following]
    · simp [following]
  simp only [remaining]
  rw [fewer]
  exact List.length_filter_lt_length_iff_exists.mpr ⟨last, among, by simp⟩

/-- Before the end of a transfer its flight is woken once more, and not after the end. -/
theorem nextWake?_of_lt {start now : Instant} {count : Nat}
    (leads : Leads start flight.transfer.now flight.transfer.wakes count) (started : start ≤ now)
    (early : now < flight.transfer.now)
    : ∃ wake,
        flight.nextWake? now = some wake
        ∧ now < wake.moment
        ∧ wake.moment ≤ flight.transfer.now
        ∧ remaining flight wake.moment < remaining flight now := by
  obtain ⟨last, member, ends⟩ := leads.awake (Nat.lt_of_le_of_lt started early)
  have awaited : last ∈ flight.transfer.wakes.filter (now < ·.moment) := by
    simpa [member, ends] using early
  obtain ⟨wake, next⟩ :=
    Option.isSome_iff_exists.mp (List.getLast?_isSome.mpr (List.ne_nil_of_mem awaited))
  have next
      : flight.nextWake? now = some { wake with since := wake.since ++ flight.earlier } := by
    simp [Flight.nextWake?, next]
  obtain ⟨later, ⟨listed, among, same⟩, fewer⟩ := nextWake?_spec next
  exact ⟨_, next, later, same ▸ leads.past listed among, fewer⟩

/-- A flight is under way until its transfer is over. -/
theorem attend_of_lt (early : world.now < flight.transfer.now)
    : crawler.attendTask wall (.flight flight) world = (.underWay flight, world) := by
  unfold attendTask attend lookAfter
  dsimp only
  split
  · rfl
  · rw [if_pos early]

/-- A flight whose transfer is over by an instant is looked after at the end of the transfer, by
induction on the instants that the crawl may still go through.
-/
theorem awaitReport_landing (crawler : Crawler) (wall : Timestamp) {start : Instant} {count : Nat}
    (leads : Leads start flight.transfer.now flight.transfer.wakes count) (fuel : Nat)
    (started : start ≤ world.now) (early : world.now ≤ flight.transfer.now)
    (enough : remaining flight world.now ≤ fuel)
    : ∃ rest,
        fuel ≤ rest + remaining flight world.now
        ∧ crawler.awaitReport wall fuel (.only (.flight flight) world)
          = crawler.awaitReport wall rest
              (.only (.flight flight) { world with now := flight.transfer.now }) := by
  induction fuel generalizing world with
  | zero =>
      rcases Nat.lt_or_eq_of_le early with before | ended
      · obtain ⟨wake, -, -, -, fewer⟩ := nextWake?_of_lt leads started before
        omega
      · exact ⟨0, Nat.zero_le _, by rw [← ended]⟩
  | succ fuel ih =>
      rcases Nat.lt_or_eq_of_le early with before | ended
      · obtain ⟨wake, next, later, intime, fewer⟩ := nextWake?_of_lt leads started before
        obtain ⟨rest, spent, same⟩ :=
          @ih { world with now := wake.moment } (Nat.le_trans started (Nat.le_of_lt later)) intime
            (by simp only; omega)
        refine ⟨rest, by simp only at spent; omega, ?_⟩
        rw [awaitReport_of_underWay (attend_of_lt before), next]
        exact same
      · refine ⟨fuel + 1, Nat.le_add_right _ _, ?_⟩
        rw [← ended]

/-- A flight whose transfer never ends stays under way. -/
theorem attendTask_of_stuck {why : Recording.Stuck}
    (stuck : flight.transfer.ending = .stuck why) (world : World)
    : crawler.attendTask wall (.flight flight) world = (.underWay flight, world) := by
  simp [attendTask, attend, lookAfter, Fetcher.land?, stuck]

/-- It is never reported on. -/
theorem awaitReport_of_stuck {why : Recording.Stuck} (stuck : flight.transfer.ending = .stuck why)
    (fuel : Nat) (world : World)
    : ∃ now,
        crawler.awaitReport wall fuel (.only (.flight flight) world)
        = (none, ⟨[], [], [flight], { world with now }⟩) := by
  induction fuel generalizing world with
  | zero =>
      refine ⟨world.now, ?_⟩
      rw [awaitReport_of_underWay (attendTask_of_stuck stuck world)]
      split
      · contradiction
      · rfl
  | succ fuel ih =>
      rw [awaitReport_of_underWay (attendTask_of_stuck stuck world)]
      split
      · rename_i wake _ _ _ same
        cases same
        exact ih _
      · exact ⟨world.now, rfl⟩

-----------------------------------------------------------------------------------------
-- One attempt
-----------------------------------------------------------------------------------------

/-- Sending a request changes the replies that are left and the requests only. -/
theorem depart_shape (crawler : Crawler) (item : CrawlItem) (wall : Timestamp) (world : World)
    : ∃ replies requests, crawler.depart item wall world = { world with replies, requests } := by
  unfold depart
  dsimp only
  split
  · exact ⟨_, _, rfl⟩
  · exact ⟨_, _, rfl⟩

/-- The flight of an attempt that is made now. -/
def flightOf (crawler : Crawler) (number : Nat) (item : CrawlItem) (isRetry : Bool)
    (earlier : List Instant) (wall : Timestamp) (world : World) : Flight :=
  let launch := crawler.fetcher.launch world.shared.servers item wall world.now
  { number, launch, isRetry, earlier
    reply := world.replies.head?
    transfer := crawler.transfer launch world.replies.head? world.cancelAt }

theorem takeOff_eq (number : Nat) (item : CrawlItem) (isRetry : Bool) (earlier : List Instant)
    (wall : Timestamp) (world : World)
    : crawler.takeOff number item isRetry earlier wall world
      = (crawler.flightOf number item isRetry earlier wall world,
          crawler.depart item wall world) := by
  unfold takeOff depart flightOf
  dsimp only
  split
  · rfl
  · rfl

section Attempt

variable {number : Nat} {item : CrawlItem} {isRetry : Bool} {earlier : List Instant}
  {execution : Execution Float}

theorem stuck_of_attempt? (number : Nat) (isRetry : Bool) (earlier : List Instant)
    (endless : crawler.attempt? item wall world = none)
    : ∃ why,
        (crawler.flightOf number item isRetry earlier wall world).transfer.ending = .stuck why := by
  unfold attempt? Fetcher.execute? Fetcher.land? at endless
  dsimp only at endless
  split at endless
  · cases endless
  · cases endless
  · cases endless
  · rename_i why stuck
    exact ⟨why, stuck⟩

theorem landed_of_attempt? (number : Nat) (isRetry : Bool) (earlier : List Instant)
    (made : crawler.attempt? item wall world = some execution)
    : let flight := crawler.flightOf number item isRetry earlier wall world
      crawler.fetcher.land? flight.launch flight.transfer wall world.shared
        = some (execution.item, execution.shared, execution.state)
      ∧ flight.transfer.now = execution.now := by
  unfold attempt? Fetcher.execute? at made
  simp only [Option.bind_eq_bind, Option.bind_eq_some_iff] at made
  obtain ⟨⟨later, after, state⟩, landed, rest⟩ := made
  cases rest
  exact ⟨landed, rfl⟩

/-- The wakes of a flight that is to end lead from its start to its end. They and those that the
replies allow which are left are no more than all replies allow.
-/
theorem leads_flightOf (number : Nat) (isRetry : Bool) (earlier : List Instant)
    (unstuck
      : ∀ why,
          (crawler.flightOf number item isRetry earlier wall world).transfer.ending ≠ .stuck why)
    : let transfer := (crawler.flightOf number item isRetry earlier wall world).transfer
      ∃ count,
        Leads world.now transfer.now transfer.wakes count
        ∧ ((crawler.depart item wall world).replies.map Reply.wakes).sum + count
          ≤ (world.replies.map Reply.wakes).sum := by
  refine ⟨_, Transfer.isLed_run _ _ _ _ unstuck, ?_⟩
  cases sent
      : (crawler.fetcher.launch world.shared.servers item wall world.now).isSent world.cancelAt with
  | false => simp [depart, sent]
  | true => cases replies : world.replies <;> simp [depart, sent, replies, Nat.add_comm]

/-- So do those of an attempt that comes to an end. -/
theorem leads_of_attempt? (number : Nat) (isRetry : Bool) (earlier : List Instant)
    (made : crawler.attempt? item wall world = some execution)
    : let transfer := (crawler.flightOf number item isRetry earlier wall world).transfer
      ∃ count,
        Leads world.now transfer.now transfer.wakes count
        ∧ ((crawler.depart item wall world).replies.map Reply.wakes).sum + count
          ≤ (world.replies.map Reply.wakes).sum := by
  obtain ⟨landed, -⟩ := landed_of_attempt? number isRetry earlier made
  apply leads_flightOf
  intro why stuck
  simp [Fetcher.land?, stuck] at landed

/-- An attempt that comes to an end is looked after then. The instants that the crawl may still go
through suffice for the replies that are left.
-/
theorem awaitReport_of_attempt? (number : Nat) (isRetry : Bool) (earlier : List Instant)
    (made : crawler.attempt? item wall world = some execution) {fuel : Nat}
    (allows : (world.replies.map Reply.wakes).sum ≤ fuel)
    : let flight := crawler.flightOf number item isRetry earlier wall world
      let departed := crawler.depart item wall world
      ∃ rest,
        (departed.replies.map Reply.wakes).sum ≤ rest
        ∧ crawler.awaitReport wall fuel (.only (.flight flight) departed)
          = crawler.awaitReport wall rest
              (.only (.flight flight) { departed with now := execution.now }) := by
  intro flight departed
  obtain ⟨count, leads, allowed⟩ := leads_of_attempt? number isRetry earlier made
  obtain ⟨-, ended⟩ := landed_of_attempt? number isRetry earlier made
  have now : departed.now = world.now := by
    obtain ⟨replies, requests, shape⟩ := depart_shape crawler item wall world
    simp [departed, shape]
  -- The wakes of the attempt are within those of the reply that it takes.
  have few : remaining flight departed.now ≤ count :=
    Nat.le_trans (List.length_filter_le _ _) leads.few
  have enough : remaining flight departed.now ≤ fuel := by omega
  obtain ⟨rest, spent, same⟩ :=
    awaitReport_landing crawler wall leads fuel (Nat.le_of_eq now.symm) (now ▸ leads.onward)
      enough
  have left : (departed.replies.map Reply.wakes).sum + count ≤ fuel :=
    Nat.le_trans allowed allows
  have spent : fuel ≤ rest + remaining flight departed.now := spent
  exact ⟨rest, by omega, ended ▸ same⟩

end Attempt

-----------------------------------------------------------------------------------------
-- The end of an attempt
-----------------------------------------------------------------------------------------

/-- A second attempt is the last one. -/
theorem lookAfter_of_isRetry (retried : flight.isRetry = true)
    (retry other : Flight → World → Progress × World) (world : World)
    : crawler.lookAfter wall retry flight world = crawler.lookAfter wall other flight world := by
  simp [lookAfter, wantsRetry, retried]

/-- At the end of its transfer an attempt is followed by another one, or its item is archived. -/
theorem attendTask_of_attempt? {item : CrawlItem} {execution : Execution Float} (number : Nat)
    (isRetry : Bool) (earlier : List Instant)
    (made : crawler.attempt? item wall world = some execution)
    : let flight := crawler.flightOf number item isRetry earlier wall world
      let later := crawler.arrive item wall world execution
      let (report, archived) := crawler.conclude execution.item execution.state wall later
      crawler.attendTask wall (.flight flight)
          { crawler.depart item wall world with now := execution.now }
      = if retries execution world.cancelAt && !isRetry then
          crawler.attendTask wall
            (.flight
              (crawler.flightOf number execution.item.reset true flight.line wall later))
            (crawler.depart execution.item.reset wall later)
        else (.reported report, archived) := by
  obtain ⟨landed, ended⟩ := landed_of_attempt? number isRetry earlier made
  obtain ⟨replies, requests, departed⟩ := depart_shape crawler item wall world
  have wants
      : wantsRetry execution.item (crawler.flightOf number item isRetry earlier wall world)
          (crawler.arrive item wall world execution)
        = (retries execution world.cancelAt && !isRetry) := by
    simp [wantsRetry, retries, arrive, departed, flightOf, World.isCancelled, Bool.and_right_comm]
  dsimp only
  simp only [departed, attendTask, attend]
  rw [lookAfter, landed]
  dsimp only
  rw [if_neg (by simp [ended]), takeOff_eq, ← wants, arrive, departed]
  split
  · exact lookAfter_of_isRetry rfl _ _ _
  · rfl

/-- The report of a crawl is the same as one made directly, and the world as well, but for the time
if there is no report.
-/
structure ComesTo (result : Option Report × Crawling) (direct : Option Report × World)
    : Prop where
  report : result.1 = direct.1
  world : ∃ now, result.2.world = { direct.2 with now } ∧ (direct.1.isSome → now = direct.2.now)

theorem awaitReport_congr {other : Task} {elsewhere : World}
    (same : crawler.attendTask wall task world = crawler.attendTask wall other elsewhere)
    (fuel : Nat)
    : crawler.awaitReport wall fuel (.only task world)
      = crawler.awaitReport wall fuel (.only other elsewhere) := by
  rw [awaitReport, awaitReport]
  simp only [Crawling.only, attendReady, same]

theorem comesTo_settle {execution : Execution Float}
    (attended
      : crawler.attendTask wall task world
        = (.reported (crawler.conclude execution.item execution.state wall after).1,
            (crawler.conclude execution.item execution.state wall after).2))
    (fuel : Nat)
    : ComesTo (crawler.awaitReport wall fuel (.only task world))
        (crawler.settle execution wall after) := by
  rw [awaitReport_of_reported attended]
  exact ⟨rfl, _, rfl, fun _ => rfl⟩

theorem comesTo_endless {item : CrawlItem} (number : Nat) (isRetry : Bool)
    (earlier : List Instant) (endless : crawler.attempt? item wall world = none) (fuel : Nat)
    : ComesTo
        (crawler.awaitReport wall fuel
          (.only (.flight (crawler.flightOf number item isRetry earlier wall world))
            (crawler.depart item wall world)))
        (none, crawler.depart item wall world) := by
  obtain ⟨why, stuck⟩ := stuck_of_attempt? number isRetry earlier endless
  obtain ⟨now, same⟩ := awaitReport_of_stuck stuck fuel (crawler.depart item wall world)
  rw [same]
  exact ⟨rfl, now, rfl, fun reported => by cases reported⟩

/-- The flight of a last attempt comes to what the attempt does directly. -/
theorem comesTo_once (number : Nat) (item : CrawlItem) (earlier : List Instant) (world : World)
    {fuel : Nat} (allows : (world.replies.map Reply.wakes).sum ≤ fuel)
    : ComesTo
        (crawler.awaitReport wall fuel
          (.only (.flight (crawler.flightOf number item true earlier wall world))
            (crawler.depart item wall world)))
        (crawler.once item wall world) := by
  unfold once
  split
  · rename_i endless
    exact comesTo_endless number true earlier endless fuel
  · rename_i execution made
    obtain ⟨rest, -, same⟩ := awaitReport_of_attempt? number true earlier made allows
    rw [same]
    apply comesTo_settle
    rw [attendTask_of_attempt? number true earlier made, Bool.not_true, Bool.and_false]
    rfl

-----------------------------------------------------------------------------------------
-- The whole crawl of one URL
-----------------------------------------------------------------------------------------

/-- The flight of a first attempt comes to what the attempts do directly. -/
theorem comesTo_attempts (number : Nat) (item : CrawlItem) (earlier : List Instant)
    (world : World) {fuel : Nat} (allows : (world.replies.map Reply.wakes).sum ≤ fuel)
    : ComesTo
        (crawler.awaitReport wall fuel
          (.only (.flight (crawler.flightOf number item false earlier wall world))
            (crawler.depart item wall world)))
        (crawler.attempts item wall world) := by
  unfold attempts
  split
  · rename_i endless
    exact comesTo_endless number false earlier endless fuel
  · rename_i execution made
    obtain ⟨rest, left, same⟩ := awaitReport_of_attempt? number false earlier made allows
    have attended := attendTask_of_attempt? number false earlier made
    rw [same]
    dsimp only at attended ⊢
    split
    · rename_i retried
      rw [retried, Bool.not_false, Bool.and_true, if_pos rfl] at attended
      rw [awaitReport_congr attended]
      exact comesTo_once _ _ _ _ left
    · rename_i settled
      rw [Bool.not_eq_true] at settled
      rw [settled, Bool.false_and, if_neg Bool.false_ne_true] at attended
      exact comesTo_settle attended rest

/-- The instants that a crawl may go through are those that its replies allow. -/
theorem instants_only (url : Url) (world : World)
    : (Crawling.only (.url url) world).instants = (world.replies.map Reply.wakes).sum := by
  simp only [Crawling.instants, Crawling.only, List.map_cons, List.map_nil, List.foldl_cons,
    List.foldl_nil, Nat.zero_add, List.sum_eq_foldl]
  rfl

/-- The crawl of a URL comes to what its attempts do directly, by cases of whether the URL is
fetched at all.
-/
theorem carryOut_eq (crawler : Crawler) (url : Url) (wall : Timestamp) (world : World)
    : ∃ now,
        crawler.carryOut url wall world
          = ((crawler.crawl url wall world).1, { (crawler.crawl url wall world).2 with now })
        ∧ ((crawler.crawl url wall world).1.isSome
          → now = (crawler.crawl url wall world).2.now) := by
  suffices comes
      : ComesTo
          (crawler.awaitReport wall (Crawling.only (.url url) world).instants
            (.only (.url url) world))
          (crawler.crawl url wall world) by
    obtain ⟨now, same, intime⟩ := comes.world
    exact ⟨now, Prod.ext comes.report same, intime⟩
  rw [instants_only, crawl]
  rcases screened : Fetcher.screen (.new url) world.shared with ⟨isFetched, item, shared⟩
  cases isFetched with
  | false =>
      have attended
          : crawler.attendTask wall (.url url) world
            = (.reported (.ofItem item none .skipped),
                { world with shared, taken := world.taken + 1 }) := by
        simp [attendTask, start, screened]
      rw [awaitReport_of_reported attended]
      exact ⟨rfl, _, rfl, fun _ => rfl⟩
  | true =>
      let known := { world with shared, taken := world.taken + 1 }
      have attended
          : crawler.attendTask wall (.url url) world
            = crawler.attendTask wall
                (.flight (crawler.flightOf world.taken item false [known.now] wall known))
                (crawler.depart item wall known) := by
        simp only [attendTask, start, screened, takeOff_eq, if_true, known]
      rw [awaitReport_congr attended]
      exact comesTo_attempts _ _ _ known (Nat.le_refl _)

/-- A crawl of one URL by any number of workers is the crawl of that URL, unless it was cancelled
before.
-/
theorem run_eq_carryOut (crawler : Crawler) (url : Url) (workers : Nat) (wall : Timestamp)
    {world : World} (begun : world.isCancelled = false)
    : crawler.run [url] (workers + 1) none wall world
      = ((crawler.carryOut url wall world).1.toList, (crawler.carryOut url wall world).2) := by
  have handedOut
      : Crawling.handOut (workers + 1) ⟨[url], [], [], world⟩ = .only (.url url) world := by
    simp [Crawling.handOut, Crawling.only, begun]
  simp only [run, List.length_singleton, reports, nextReport, handedOut, carryOut]
  rcases crawler.awaitReport wall (Crawling.only (.url url) world).instants
      (.only (.url url) world) with ⟨report, crawling⟩
  cases report with
  | none => rfl
  | some report => rfl

end Crawler

end WebHarvest.Crawl
