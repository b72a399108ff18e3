import WebHarvest.Capture.History
import WebHarvest.Item.Basic

/-! Which fetched items take part in deduplication, and under which key. -/

namespace WebHarvest.CrawlItem

/-- Whether the item is a success with a digest of its whole body. -/
def isEligible (item : CrawlItem) : Bool :=
  item.digest.isSome && !item.isTruncated && !item.hasRemark Remark.midfetchAborted
    && (item.status.bind FetchStatus.http?).any fun code => 200 ≤ code && code < 300

/-- The key of the item's content: its digest, with the length of the body if asked for and
known. -/
def captureKey? (byLength : Bool) (item : CrawlItem) : Option CaptureKey :=
  item.digest.map fun digest =>
    match byLength, item.recorded with
    | true, some recorded => .ofDigestAndLength digest recorded.bodySize
    | _, _ => .ofDigest digest

/-- The key of an item that takes part in deduplication. -/
def dedupKey? (byLength : Bool) (item : CrawlItem) : Option CaptureKey :=
  if item.isEligible then item.captureKey? byLength else none

/-- The item as a capture under an identifier. -/
def capture (item : CrawlItem) (recordId : String) (wall : Calendar.Timestamp) : Capture :=
  ⟨item.url.text, item.begun.getD wall, recordId⟩

/-- Looks for an earlier capture of the item's content and notes the outcome. An item that does not
take part is left alone. -/
def loadEarlier (byLength : Bool) (history : CaptureHistory) (item : CrawlItem) : CrawlItem :=
  match item.dedupKey? byLength with
  | some key => { item with earlierCapture := history.lookup? key }
  | none => item

/-- Whether an item that takes part has an earlier capture. -/
def isKnown (byLength : Bool) (history : CaptureHistory) (item : CrawlItem) : Bool :=
  (item.dedupKey? byLength).any fun key => (history.lookup? key).isSome

/-- Records the item as a capture, if it takes part. Gives the entry of its content. -/
def recordCapture (byLength : Bool) (history : CaptureHistory) (item : CrawlItem)
    (recordId : String) (wall : Calendar.Timestamp) : Option CaptureEntry × CaptureHistory :=
  match item.dedupKey? byLength with
  | some key =>
    let (entry, history) := history.record key (item.capture recordId wall)
    (some entry, history)
  | none => (none, history)

end WebHarvest.CrawlItem
