import WebHarvest.Fetch.Landing

/-! One attempt on its own: an item is fetched while nothing else happens. -/

namespace WebHarvest.Fetch

open Clock (Instant)
open Recording (Recorder Tokens)

/-- An attempt that is over: its item, what is shared, where it ended up, and the replies that were
not taken. -/
structure Execution (α : Type) where
  item : CrawlItem
  shared : Shared
  state : FetchState
  recorder : Recorder α
  envelope : Bytes
  now : Instant
  replies : List Reply

/-- Fetches an item from `now` on. The request takes the first reply if it is sent. Nothing comes of
a transfer that never ends. -/
def Fetcher.execute? {α : Type} [Tokens α] (fetcher : Fetcher) (item : CrawlItem)
    (shared : Shared) (replies : List Reply) (wall : Calendar.Timestamp) (now : Instant)
    (cancelAt : Option Instant) : Option (Execution α) := do
  let launch := fetcher.launch shared.servers item wall now
  let transfer : Transfer α := .run fetcher.config launch cancelAt replies.head?
  let (item, shared, state) ← fetcher.land? launch transfer wall shared
  return {
    item, shared, state
    recorder := transfer.recorder
    envelope := launch.request.envelope
    now := transfer.now
    replies := if launch.isSent cancelAt then replies.tail else replies }

end WebHarvest.Fetch
