import WebHarvest.Crawl.Flight

/-! A crawl of many URLs by several workers. URLs are handed out in order while fewer than the
workers are under way; what is ready is looked after in order, one report at a time; and when
nothing is ready, time goes on to the next instant at which a flight is woken. -/

namespace WebHarvest.Crawl

open Clock (Instant)

/-- What can be looked after: a URL that was handed out, or a flight that was woken. -/
inductive Task where
  | url (url : Url)
  | flight (flight : Flight)

/-- A crawl under way: the URLs that were not handed out, the tasks that are ready, the flights that
wait to be woken, and the world. -/
structure Crawling where
  urls : List Url
  ready : List Task
  waiting : List Flight
  world : World

/-- Flights that are woken together after an instant, in the order in which they are. -/
def wakingOrder (now : Instant) (flights : List Flight) : List Flight :=
  flights.mergeSort fun flight other => !other.precedes now flight

namespace Crawling

/-- Hands out URLs while there are fewer tasks than workers and the crawl is not cancelled. -/
def handOut (workers : Nat) (crawling : Crawling) : Crawling :=
  let busy := crawling.ready.length + crawling.waiting.length
  let count := if crawling.world.isCancelled then 0 else workers - busy
  { crawling with
    urls := crawling.urls.drop count
    ready := crawling.ready ++ (crawling.urls.take count).map .url }

/-- The next instant at which a flight is woken. -/
def nextWake? (crawling : Crawling) : Option Instant :=
  (crawling.waiting.filterMap fun flight =>
    (flight.nextWake? crawling.world.now).map (·.moment)).min?

/-- Lets time go on to an instant, at which the flights that are woken get ready. -/
def advance (crawling : Crawling) (moment : Instant) : Crawling :=
  let now := crawling.world.now
  let (woken, waiting) :=
    crawling.waiting.partition fun flight =>
      (flight.nextWake? now).any (·.moment == moment)
  { crawling with
    ready := crawling.ready ++ (wakingOrder now woken).map .flight
    waiting
    world := { crawling.world with now := moment } }

/-- A bound on the instants at which flights are woken: each wake is that of a wait under way, or of
a delay, a body's event or the end of a transfer that is still to come. -/
def instants (crawling : Crawling) : Nat :=
  let ofTask : Task → Nat
    | .url _ => 0
    | .flight flight => flight.transfer.wakes.length
  let ofReply (reply : Fetch.Reply) : Nat :=
    match reply.answer with
    | .refusal _ => 1
    | .response _ body => body.length + 2
  let total (counts : List Nat) : Nat := counts.foldl (· + ·) 0
  total (crawling.ready.map ofTask) + total (crawling.waiting.map (·.transfer.wakes.length))
    + total (crawling.world.replies.map ofReply)

end Crawling

namespace Crawler

variable (crawler : Crawler)

/-- Looks after a task. -/
def attendTask (wall : Calendar.Timestamp) (task : Task) (world : World) : Progress × World :=
  match task with
  | .url url => crawler.start url wall world
  | .flight flight => crawler.attend wall flight world

/-- Looks after ready tasks until there is a report. -/
def attendReady (wall : Calendar.Timestamp)
    : List Task → List Flight → World → Option Report × List Task × List Flight × World
  | [], waiting, world => (none, [], waiting, world)
  | task :: ready, waiting, world =>
    match crawler.attendTask wall task world with
    | (.reported report, world) => (some report, ready, waiting, world)
    | (.underWay flight, world) => attendReady wall ready (waiting ++ [flight]) world

/-- Goes on to the next report. The first argument bounds the number of instants until then. -/
def awaitReport (wall : Calendar.Timestamp) : Nat → Crawling → Option Report × Crawling
  | fuel, crawling =>
    let (report, ready, waiting, world) :=
      crawler.attendReady wall crawling.ready crawling.waiting crawling.world
    let crawling := { crawling with ready, waiting, world }
    match report, crawling.nextWake?, fuel with
    | none, some moment, fuel + 1 => awaitReport wall fuel (crawling.advance moment)
    | report, _, _ => (report, crawling)

/-- Hands out URLs and goes on to the next report. -/
def nextReport (wall : Calendar.Timestamp) (workers : Nat) (crawling : Crawling)
    : Option Report × Crawling :=
  let crawling := crawling.handOut workers
  crawler.awaitReport wall crawling.instants crawling

/-- A task in a crawl that is cancelled at a given instant. -/
def cancelTask (cancelAt : Instant) : Task → Task
  | .url url => .url url
  | .flight flight => .flight (crawler.cancelFlight cancelAt flight)

/-- Cancels a crawl, unless it was cancelled before. What is ready at this instant meets the
cancellation before anything else; a flight that waits has been looked after at this instant, and
meets the cancellation behind all that has happened then, which is to say a nanosecond later. -/
def cancel (crawling : Crawling) : Crawling :=
  let now := crawling.world.now
  if crawling.world.isCancelled then crawling
  else
    { crawling with
      ready := crawling.ready.map (crawler.cancelTask now)
      waiting := crawling.waiting.map (crawler.cancelFlight (now + 1))
      world := { crawling.world with cancelAt := some now } }

/-- All further reports, at most as many as the first argument. The crawl is cancelled when as many
reports as `cancelAfter` have been given. -/
def reports (wall : Calendar.Timestamp) (workers : Nat)
    : Nat → Option Nat → Crawling → List Report × World
  | 0, _, crawling => ([], crawling.world)
  | fuel + 1, cancelAfter, crawling =>
    match crawler.nextReport wall workers crawling with
    | (none, crawling) => ([], crawling.world)
    | (some report, crawling) =>
      let crawling := if cancelAfter == some 1 then crawler.cancel crawling else crawling
      let (rest, world) := reports wall workers fuel (cancelAfter.map (· - 1)) crawling
      (report :: rest, world)

/-- Crawls URLs. -/
def run (urls : List Url) (workers : Nat) (cancelAfter : Option Nat) (wall : Calendar.Timestamp)
    (world : World) : List Report × World :=
  crawler.reports wall workers urls.length cancelAfter ⟨urls, [], [], world⟩

end Crawler

end WebHarvest.Crawl
