import WebHarvest.Access.Credential
import WebHarvest.Archive.Record
import WebHarvest.Capture.Entry
import WebHarvest.Http.Header
import WebHarvest.Item.Snapshot
import WebHarvest.Item.Status
import WebHarvest.Url.Basic

/-! The item of a crawl: one URL on its way through fetching and archiving. What belongs to one
attempt is cleared before the next one; what an attempt observes once is set once. -/

namespace WebHarvest

/-- How the bytes of a recorded response are laid out: all of them, those before the body, and the
length of the request that was answered. -/
structure RecordedTransfer where
  size : Nat
  contentBegin : Nat
  requestLength : Nat
  deriving DecidableEq, Repr

/-- Bytes of the recorded body. -/
def RecordedTransfer.bodySize (recorded : RecordedTransfer) : Nat :=
  recorded.size - recorded.contentBegin

/-- What is kept of the head of a response. -/
structure ResponseSummary where
  status : Nat
  headers : Http.Headers
  deriving DecidableEq, Repr

namespace Remark

/-- The remark on a body that was cut short by its time. -/
def timeTruncated : String := "timeTrunc"

/-- The remark on a body that was cut short by its length. -/
def lengthTruncated : String := "lenTrunc"

/-- The remark on a body that was not read because of the response's head. -/
def midfetchAborted : String := "midFetchAbort"

/-- The remark on content that the server says has not changed. -/
def notModified : String := "warcRevisit:notModified"

/-- The remark on content that was captured before, under any URL. -/
def identicalDigest : String := "warcRevisit:uriAgnosticDigest"

end Remark

/-- An item. Snapshots are kept with the latest first. -/
structure CrawlItem where
  url : Url
  method : FetchMethod
  via : Option Url
  isPrerequisite : Bool
  overrides : FetchOverrides
  status : Option FetchStatus
  begun : Option Calendar.Timestamp
  completed : Option Calendar.Timestamp
  contentSize : Nat
  contentType : Option String
  digest : Option ContentDigest
  annotations : List String
  snapshots : List FetchSnapshot
  credentials : List Access.Credential
  challenges : Access.Challenges
  failures : List String
  response : Option ResponseSummary
  recorded : Option RecordedTransfer
  referenceLength : Option Nat
  earlierCapture : Option CaptureEntry
  records : Archive.RecordSet
  deriving DecidableEq, Repr

namespace CrawlItem

/-- An item that was not touched yet. -/
def new (url : Url) : CrawlItem where
  url := url
  method := .get
  via := none
  isPrerequisite := false
  overrides := .none
  status := none
  begun := none
  completed := none
  contentSize := 0
  contentType := none
  digest := none
  annotations := []
  snapshots := []
  credentials := []
  challenges := .empty
  failures := []
  response := none
  recorded := none
  referenceLength := none
  earlierCapture := none
  records := .empty

/-- Notes how the attempt ended. After a response only a failure may still be noted. -/
def setStatus (item : CrawlItem) (status : FetchStatus) : CrawlItem :=
  match item.status, status with
  | some (.http _), .http _ => item
  | _, _ => { item with status := some status }

/-- Notes when the attempt began, once. -/
def setBegun (item : CrawlItem) (t : Calendar.Timestamp) : CrawlItem :=
  { item with begun := item.begun.or (some t) }

/-- Notes when the attempt was completed, once. -/
def setCompleted (item : CrawlItem) (t : Calendar.Timestamp) : CrawlItem :=
  { item with completed := item.completed.or (some t) }

/-- Notes the digest of the content, once. -/
def setDigest (item : CrawlItem) (digest : ContentDigest) : CrawlItem :=
  { item with digest := item.digest.or (some digest) }

/-- Adds a remark. -/
def annotate (item : CrawlItem) (remark : String) : CrawlItem :=
  { item with annotations := item.annotations ++ [remark] }

/-- Whether a remark was made. -/
def hasRemark (item : CrawlItem) (remark : String) : Bool :=
  item.annotations.contains remark

/-- Adds a failure that does not end the item's life. -/
def addFailure (item : CrawlItem) (why : String) : CrawlItem :=
  { item with failures := item.failures ++ [why] }

/-- Whether the body was cut short. -/
def isTruncated (item : CrawlItem) : Bool :=
  item.hasRemark Remark.lengthTruncated || item.hasRemark Remark.timeTruncated

/-- Whether credentials are attached. -/
def hasCredentials (item : CrawlItem) : Bool :=
  !item.credentials.isEmpty

/-- Puts a snapshot in front, and keeps no more than `keep`, but at least this one. -/
def pushSnapshot (item : CrawlItem) (snapshot : FetchSnapshot) (keep : Nat) : CrawlItem :=
  { item with snapshots := (snapshot :: item.snapshots).take (max keep 1) }

/-- The latest snapshot. -/
def latest? (item : CrawlItem) : Option FetchSnapshot :=
  item.snapshots.head?

/-- The item before its next attempt. Snapshots, credentials, challenges and failures stay. -/
def reset (item : CrawlItem) : CrawlItem :=
  { item with
    annotations := []
    status := none
    begun := none
    completed := none
    contentSize := 0
    contentType := none
    digest := none
    response := none
    recorded := none
    referenceLength := none
    earlierCapture := none
    records := .empty }

end CrawlItem

end WebHarvest
