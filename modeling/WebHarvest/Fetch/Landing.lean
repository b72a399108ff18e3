import WebHarvest.Access.Challenge
import WebHarvest.Fetch.Transfer

/-! What the end of a transfer means for its item and for what fetches share: the status, the sizes
and the digest, the credentials that were good or bad, and the snapshot. -/

namespace WebHarvest.Fetch

open Access (Challenges)
open Recording (Recorder Tokens)

/-- Where an attempt has ended up. -/
inductive FetchState where
  | completed
  | midfetchAbort
  | timedOutTruncated
  | lengthTruncated
  | connectLost
  | connectFailed
  deriving DecidableEq, Repr

/-- The name of a state. -/
def FetchState.text : FetchState → String
  | completed => "Completed"
  | midfetchAbort => "MidfetchAbort"
  | timedOutTruncated => "TimedOutTruncated"
  | lengthTruncated => "LengthTruncated"
  | connectLost => "ConnectLost"
  | connectFailed => "ConnectFailed"

/-- The state of an attempt that has recorded a response to some extent. -/
def Extent.state : Extent → FetchState
  | whole => .completed
  | envelopeOnly => .midfetchAbort
  | untilTimeout => .timedOutTruncated
  | untilLimit => .lengthTruncated

/-- The remark on an item whose response was not recorded whole. -/
def Extent.remark? : Extent → Option String
  | whole => none
  | envelopeOnly => some Remark.midfetchAborted
  | untilTimeout => some Remark.timeTruncated
  | untilLimit => some Remark.lengthTruncated

/-- Sizes are kept in sixty-four bits. -/
def sizeModulus : Nat := Nat.pow 2 64

/-- The item after the head of a response has come in. -/
def observeHead (head : Http.ResponseHead) (item : CrawlItem) : CrawlItem :=
  { item.setStatus (.http head.status) with
    contentType := head.contentType?
    response := some ⟨head.status, head.headers⟩ }

/-- The item after an attempt that was given up. -/
def giveUp (status : FetchStatus) (why : FetchError) (wall : Calendar.Timestamp)
    (item : CrawlItem) : CrawlItem :=
  ((item.addFailure why.message).setStatus status).setCompleted wall

/-- Notes the recorded sizes. A response that says that nothing has changed stands for its own bytes
and those that the latest snapshot refers to. -/
def setSizes {α : Type} (recorder : Recorder α) (requestLength : Nat) (item : CrawlItem)
    : CrawlItem :=
  let size := recorder.size
  let item :=
    { item with
      contentSize := size
      recorded := some ⟨size, recorder.contentBegin, requestLength⟩ }
  let reference :=
    if item.status.any (·.isNotModified) then item.latest?.bind (·.referenceLength) else none
  match reference with
  | some length =>
    { item with
      referenceLength := some length
      contentSize := (size + length) % sizeModulus }
  | none => item

/-- The digest that a response leaves on its item, unless its body was not read. -/
def setContentDigest (digest : Option ContentDigest) (extent : Extent) (item : CrawlItem)
    : CrawlItem :=
  match digest with
  | some digest => if extent == .envelopeOnly then item else item.setDigest digest
  | none => item

namespace Fetcher

/-- The item after a response that asks for credentials. Those it had are dropped; an item that had
none gets those of the store that answer the challenges. -/
def challenged (fetcher : Fetcher) (headers : Http.Headers) (item : CrawlItem) : CrawlItem :=
  let challenges := Challenges.ofHeaders headers "www-authenticate"
  if challenges.isEmpty then item
  else if item.hasCredentials then { item with challenges, credentials := [] }
  else
    let matching := item.url.hostText?.elim [] fun host =>
      (fetcher.store.forHost host).filter (·.answers challenges)
    { item with challenges, credentials := matching }

/-- What a response means for credentials: a request for them by the server or by a proxy, or the
proof that those presented are good. -/
def settleAccess (fetcher : Fetcher) (head : Http.ResponseHead) (presented : Bool)
    (item : CrawlItem) (shared : Shared) : CrawlItem × Shared :=
  if head.status == 401 then (fetcher.challenged head.headers item, shared)
  else if head.status == 407 then
    let challenges := Challenges.ofHeaders head.headers "proxy-authenticate"
    (item, if challenges.isEmpty then shared else { shared with proxyChallenges := challenges })
  else if presented && (FetchStatus.http head.status).isSuccess then
    let (_, item, servers) := item.promote shared.servers
    (item, { shared with servers })
  else (item, shared)

/-- Whether a response with a status leaves a snapshot; one that asks for credentials does not. -/
def leavesSnapshot (status : Nat) : Bool :=
  status != 401 && status != 407

/-- The item and what is shared after a response that was recorded to some extent. -/
def landRecorded {α : Type} (fetcher : Fetcher) (launch : Launch) (recorder : Recorder α)
    (head : Http.ResponseHead) (extent : Extent) (wall : Calendar.Timestamp) (shared : Shared)
    : CrawlItem × Shared :=
  let item := observeHead head launch.item
  let item := extent.remark?.elim item item.annotate
  let item := setSizes recorder launch.request.envelope.length item
  let item := setContentDigest recorder.digest extent item
  let (item, shared) := fetcher.settleAccess head launch.presented item shared
  let item :=
    if leavesSnapshot head.status then item.recordSnapshot fetcher.config.snapshotsKept wall
    else item
  (item.setCompleted wall, shared)

/-- An attempt that is over: its item, what is shared, and the state; nothing if the transfer never
ends. -/
def land? {α : Type} (fetcher : Fetcher) (launch : Launch) (transfer : Transfer α)
    (wall : Calendar.Timestamp) (shared : Shared) : Option (CrawlItem × Shared × FetchState) :=
  match transfer.ending with
  | .unanswered why =>
    some (giveUp .connectFailed (.connect why) wall launch.item, shared, .connectFailed)
  | .lost head why =>
    some (giveUp .connectLost (.lost why.message) wall (observeHead head launch.item), shared,
      .connectLost)
  | .recorded head extent =>
    let (item, shared) :=
      fetcher.landRecorded launch transfer.recorder head extent wall shared
    some (item, shared, extent.state)
  | .stuck _ => none

end Fetcher

end WebHarvest.Fetch
