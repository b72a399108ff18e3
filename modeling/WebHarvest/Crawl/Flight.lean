import WebHarvest.Crawl.Report
import WebHarvest.Fetch.Execution

/-! The way of one URL through a crawl: it is taken on, fetched, fetched once more if the server
asks for credentials that there are, and archived. -/

namespace WebHarvest.Crawl

open Clock (Instant)
open Fetch (Fetcher Launch Reply Transfer)

/-- A crawler: the fetcher and the archive's policy. -/
structure Crawler where
  fetcher : Fetcher
  policy : Archive.Policy

/-- All that a crawl changes: what fetches share, the archive, the replies that are left, the
requests that were sent, the number of URLs taken on, the time, and when the crawl is cancelled. -/
structure World where
  shared : Fetch.Shared
  archiving : Archive.Archiving
  replies : List Reply
  requests : List Bytes
  taken : Nat
  now : Instant
  cancelAt : Option Instant

/-- Whether the crawl has been cancelled. -/
def World.isCancelled (world : World) : Bool :=
  !Clock.isBefore world.now world.cancelAt

/-- An attempt on its way. Its whole transfer is known from its start on, as long as nothing else
cancels it; arithmetic of tokens is in double precision. So many URLs were taken on before its own
as `number` tells, and in `earlier` are the instants of waking that led to it, the last one first.
-/
structure Flight where
  number : Nat
  launch : Launch
  reply : Option Reply
  transfer : Transfer Float
  isRetry : Bool
  earlier : List Instant

/-- What becomes of a URL whenever it is looked after: it is under way, or there is a report. -/
inductive Progress where
  | underWay (flight : Flight)
  | reported (report : Report)

namespace Flight

/-- The instants of waking that lead to the end of a flight, the last one first. -/
def line (flight : Flight) : List Instant :=
  flight.transfer.line ++ flight.earlier

/-- The first wake after an instant. -/
def nextWake? (flight : Flight) (now : Instant) : Option Clock.Wake :=
  (flight.transfer.wakes.filter (now < ·.moment)).getLast?.map fun wake =>
    { wake with since := wake.since ++ flight.earlier }

/-- Of two flights that are woken together after an instant the first one began to wait first. Where
the instants of waking do not tell, it was taken on first. -/
def precedes (now : Instant) (flight other : Flight) : Bool :=
  let since := (flight.nextWake? now).elim [] Clock.Wake.since
  let others := (other.nextWake? now).elim [] Clock.Wake.since
  Clock.precede since others || (since == others && flight.number < other.number)

end Flight

namespace Crawler

/-- The transfer of a launched request that is cancelled at a given instant, if at all. -/
def transfer (crawler : Crawler) (launch : Launch) (reply : Option Reply)
    (cancelAt : Option Instant) : Transfer Float :=
  .run crawler.fetcher.config launch cancelAt reply

/-- Sends the request for an item, unless the crawl has been cancelled. -/
def takeOff (crawler : Crawler) (number : Nat) (item : CrawlItem) (isRetry : Bool)
    (earlier : List Instant) (wall : Calendar.Timestamp) (world : World) : Flight × World :=
  let launch := crawler.fetcher.launch world.shared.servers item wall world.now
  let reply := world.replies.head?
  let flight : Flight :=
    { number, launch, reply, isRetry, earlier
      transfer := crawler.transfer launch reply world.cancelAt }
  if launch.isSent world.cancelAt then
    (flight,
      { world with
        replies := world.replies.tail
        requests := world.requests ++ [launch.request.envelope] })
  else (flight, world)

/-- A flight whose transfer is cancelled at a given instant. -/
def cancelFlight (crawler : Crawler) (cancelAt : Instant) (flight : Flight) : Flight :=
  { flight with transfer := crawler.transfer flight.launch flight.reply (some cancelAt) }

/-- Whether an item is fetched once more: the server has asked for credentials and there are some.
-/
def wantsRetry (item : CrawlItem) (flight : Flight) (world : World) : Bool :=
  item.status.bind FetchStatus.http? == some 401 && item.hasCredentials && !flight.isRetry
    && !world.isCancelled

/-- Archives an item and reports on it. -/
def conclude (crawler : Crawler) (item : CrawlItem) (state : Fetch.FetchState)
    (wall : Calendar.Timestamp) (world : World) : Report × World :=
  let (decision, item, archiving) := Archive.process crawler.policy item wall world.archiving
  (.ofItem item (some state) decision, { world with archiving })

/-- Looks after a flight whose transfer may be over. `retry` goes on with the next attempt. -/
def lookAfter (crawler : Crawler) (wall : Calendar.Timestamp)
    (retry : Flight → World → Progress × World) (flight : Flight) (world : World)
    : Progress × World :=
  match crawler.fetcher.land? flight.launch flight.transfer wall world.shared with
  | none => (.underWay flight, world)
  | some (item, shared, state) =>
    if world.now < flight.transfer.now then (.underWay flight, world)
    else
      let world := { world with shared }
      if wantsRetry item flight world then
        let (flight, world) :=
          crawler.takeOff flight.number item.reset true flight.line wall world
        retry flight world
      else
        let (report, world) := crawler.conclude item state wall world
        (.reported report, world)

/-- Looks after a flight, and after the next attempt if there is one. -/
def attend (crawler : Crawler) (wall : Calendar.Timestamp) (flight : Flight) (world : World)
    : Progress × World :=
  crawler.lookAfter wall
    (crawler.lookAfter wall fun flight world => (.underWay flight, world)) flight world

/-- Takes on a URL: one that is not fetched is reported at once. -/
def start (crawler : Crawler) (url : Url) (wall : Calendar.Timestamp) (world : World)
    : Progress × World :=
  let (isFetched, item, shared) := Fetcher.screen (.new url) world.shared
  let number := world.taken
  let world := { world with shared, taken := number + 1 }
  if isFetched then
    let (flight, world) := crawler.takeOff number item false [world.now] wall world
    crawler.attend wall flight world
  else (.reported (.ofItem item none .skipped), world)

end Crawler

end WebHarvest.Crawl
