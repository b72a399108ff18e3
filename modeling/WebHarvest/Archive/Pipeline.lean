import WebHarvest.Archive.Dedup
import WebHarvest.Archive.Revisit

/-! The archive's decision on a fetched item: nothing to archive, a revisit, or a response whose
content is new. -/

namespace WebHarvest.Archive

/-- What is archived of a fetched item. -/
inductive Decision where
  | skipped
  | revisit (kind : RevisitKind)
  | response
  deriving DecidableEq, Repr

/-- How items are archived: whether keys of content include its length, and whether requests get
records of their own. -/
structure Policy where
  keyByLength : Bool
  requestRecords : Bool
  deriving DecidableEq, Repr

/-- What archiving items changes besides them: the history of captures and the identifiers. -/
structure Archiving where
  history : CaptureHistory
  ids : IdSource

/-- How a record says that its content was cut short. -/
def truncationFields (item : CrawlItem) : NamedFields :=
  if item.hasRemark Remark.lengthTruncated then NamedFields.empty.add "WARC-Truncated" "length"
  else if item.hasRemark Remark.timeTruncated then
    NamedFields.empty.add "WARC-Truncated" "time"
  else .empty

/-- The record of a response with all that was recorded. -/
def responseRecord (item : CrawlItem) (wall : Calendar.Timestamp) (id : String)
    : ArchiveRecord where
  type := .response
  url := item.url.text
  date := (item.begun.getD wall).warcDate
  id := id
  mimetype := responseType
  contentLength := (item.recorded.map (·.size)).getD 0
  enforceLength := false
  fields := truncationFields item

/-- The record of a request, which accompanies the principal record. -/
def requestRecord (item : CrawlItem) (principal : String) (wall : Calendar.Timestamp)
    (id : String) : ArchiveRecord where
  type := .request
  url := item.url.text
  date := (item.begun.getD wall).warcDate
  id := id
  mimetype := requestType
  contentLength := (item.recorded.map (·.requestLength)).getD 0
  enforceLength := true
  fields := NamedFields.empty.add "WARC-Concurrent-To" (reference principal)

/-- Archives an item whose content is new: the response becomes the principal record, and the item
is recorded as a capture if it takes part in deduplication. -/
def archiveResponse (policy : Policy) (item : CrawlItem) (wall : Calendar.Timestamp)
    (archiving : Archiving) : CrawlItem × Archiving :=
  let (id, ids) := archiving.ids.draw
  let item :=
    { item with records := item.records.insert .principal (responseRecord item wall id) }
  let (_, history) := item.recordCapture policy.keyByLength archiving.history id wall
  (item, { history, ids })

/-- Gives the item a record of its request, if that is wanted and there is a principal record. -/
def archiveRequest (policy : Policy) (item : CrawlItem) (wall : Calendar.Timestamp)
    (ids : IdSource) : CrawlItem × IdSource :=
  match policy.requestRecords, item.records.principal? with
  | true, some principal =>
    let (id, ids) := ids.draw
    ({ item with
        records := item.records.insert .request (requestRecord item principal.id wall id) },
      ids)
  | _, _ => (item, ids)

/-- Whether there is a recorded response to archive. -/
def isArchivable (item : CrawlItem) : Bool :=
  (item.status.bind FetchStatus.http?).isSome && item.recorded.isSome

/-- Decides on an item for which an earlier capture has been looked up, and gives it its records. -/
def conclude (policy : Policy) (item : CrawlItem) (wall : Calendar.Timestamp)
    (archiving : Archiving) : Decision × CrawlItem × Archiving :=
  let (decision, item, archiving) := match selectRevisit item wall archiving.ids with
    | (some kind, item, ids) => (Decision.revisit kind, item, { archiving with ids })
    | (none, item, _) =>
      let (item, archiving) := archiveResponse policy item wall archiving
      (Decision.response, item, archiving)
  let (item, ids) := archiveRequest policy item wall archiving.ids
  (decision, item, { archiving with ids })

/-- Looks for an earlier capture of an item, decides on it and gives it its records. -/
def process (policy : Policy) (item : CrawlItem) (wall : Calendar.Timestamp)
    (archiving : Archiving) : Decision × CrawlItem × Archiving :=
  if !isArchivable item then (.skipped, item, archiving)
  else
    conclude policy (item.loadEarlier policy.keyByLength archiving.history) wall archiving

end WebHarvest.Archive
