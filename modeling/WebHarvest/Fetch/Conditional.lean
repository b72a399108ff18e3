import WebHarvest.Fetch.Config
import WebHarvest.Item.Basic

/-! Asking only for what has changed: the validators of the latest snapshot go into the request, and
every attempt that ends with a response leaves a snapshot. -/

namespace WebHarvest.Fetch

/-- Sets a header field if there is a text for it that may be a value. -/
def insertText (headers : Http.Headers) (name : String) (text : Option String) : Http.Headers :=
  match text.bind Http.headerValue? with
  | some value => headers.insert name value
  | none => headers

/-- Adds the validators of the item's latest snapshot, as far as they are to be sent. -/
def FetchConfig.addValidators (config : FetchConfig) (item : CrawlItem) (headers : Http.Headers)
    : Http.Headers :=
  let lastModified :=
    if config.sendIfModifiedSince then item.latest?.bind (·.lastModified) else none
  let etag := if config.sendIfNoneMatch then item.latest?.bind (·.etag) else none
  insertText (insertText headers "if-modified-since" lastModified) "if-none-match" etag

end WebHarvest.Fetch

namespace WebHarvest.CrawlItem

/-- The text of a field of the response. -/
def responseField? (item : CrawlItem) (name : String) : Option String :=
  item.response.bind fun response => response.headers.first? name

/-- The snapshot of an attempt that ended with a status. A response that says that nothing has
changed has the digest of the snapshot before, and its validators unless it has its own. -/
def snapshot (item : CrawlItem) (status : FetchStatus) (wall : Calendar.Timestamp)
    : FetchSnapshot :=
  let previous := if status.isNotModified then item.latest? else none
  { status := status.code
    fetchedAt := item.begun.getD wall
    etag := (item.responseField? "etag").or (previous.bind (·.etag))
    lastModified := (item.responseField? "last-modified").or (previous.bind (·.lastModified))
    digest := match previous with
      | some previous => previous.digest
      | none => item.digest
    referenceLength := item.referenceLength.or (item.recorded.map (·.size)) }

/-- Puts the snapshot of the attempt in front of those before, of which no more than `keep` stay. -/
def recordSnapshot (item : CrawlItem) (keep : Nat) (wall : Calendar.Timestamp) : CrawlItem :=
  match item.status with
  | none => item
  | some status => item.pushSnapshot (item.snapshot status wall) keep

end WebHarvest.CrawlItem
