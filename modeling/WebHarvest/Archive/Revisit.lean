import WebHarvest.Archive.Identifier
import WebHarvest.Item.Basic

/-! Revisits: a fetch that brought nothing new becomes a record that refers to what is there. The
server's word that nothing has changed comes before an earlier capture of the same content. -/

namespace WebHarvest.Archive

/-- Why a fetch is a revisit. -/
inductive RevisitKind where
  | notModified
  | identicalDigest
  deriving DecidableEq, Repr

namespace RevisitKind

/-- The name of a kind. -/
def text : RevisitKind → String
  | notModified => "not-modified"
  | identicalDigest => "identical-digest"

/-- The profile that a revisit record of a kind follows. -/
def profile : RevisitKind → String
  | notModified => "http://netpreserve.org/warc/1.0/revisit/server-not-modified"
  | identicalDigest => "http://netpreserve.org/warc/1.0/revisit/identical-payload-digest"

/-- The remark on an item that is a revisit of a kind. -/
def remark : RevisitKind → String
  | notModified => Remark.notModified
  | identicalDigest => Remark.identicalDigest

end RevisitKind

/-- The media type of a recorded response. -/
def responseType : String := "application/http; msgtype=response"

/-- The media type of a recorded request. -/
def requestType : String := "application/http; msgtype=request"

/-- A reference to a record by its identifier. -/
def reference (id : String) : String := "<" ++ id ++ ">"

/-- Adds a labelled value, if there is one. -/
def NamedFields.addSome (fields : NamedFields) (label : String) (value : Option String)
    : NamedFields :=
  match value with
  | some value => fields.add label value
  | none => fields

/-- The labelled values of a record for a response that says that nothing has changed. -/
def notModifiedFields (item : CrawlItem) : NamedFields :=
  let field (name : String) := item.response.bind fun response => response.headers.first? name
  ((NamedFields.empty.add "WARC-Profile" RevisitKind.notModified.profile).addSome
    "WARC-Etag" (field "etag")).addSome "WARC-Last-Modified" (field "last-modified")

/-- The labelled values of a record that refers to an earlier capture. -/
def identicalDigestFields (entry : CaptureEntry) : NamedFields :=
  ⟨[("WARC-Profile", RevisitKind.identicalDigest.profile), ("WARC-Truncated", "length"),
    ("WARC-Refers-To", reference entry.recordId), ("WARC-Refers-To-Target-URI", entry.url),
    ("WARC-Refers-To-Date", entry.date.warcDate)]⟩

/-- A revisit record for an item. -/
def revisitRecord (item : CrawlItem) (wall : Calendar.Timestamp) (id : String)
    (contentLength : Nat) (fields : NamedFields) : ArchiveRecord where
  type := .revisit
  url := item.url.text
  date := (item.begun.getD wall).warcDate
  id := id
  mimetype := responseType
  contentLength := contentLength
  enforceLength := true
  fields := fields

/-- The record for a response that says that nothing has changed, with all that was recorded. -/
def notModifiedRecord (item : CrawlItem) (wall : Calendar.Timestamp) (id : String)
    : ArchiveRecord :=
  revisitRecord item wall id ((item.recorded.map (·.size)).getD 0) (notModifiedFields item)

/-- The record for content that was captured before, with the envelope only. -/
def identicalDigestRecord (item : CrawlItem) (entry : CaptureEntry) (wall : Calendar.Timestamp)
    (id : String) : ArchiveRecord :=
  revisitRecord item wall id ((item.recorded.map (·.contentBegin)).getD 0)
    (identicalDigestFields entry)

/-- The kind of revisit that an item is, with the earlier capture that it refers to if there is
one. -/
def revisitKind? (item : CrawlItem) : Option (RevisitKind × Option CaptureEntry) :=
  if item.status.any (·.isNotModified) then some (.notModified, none)
  else
    match item.earlierCapture with
    | some entry => if entry.url.isEmpty then none else some (.identicalDigest, some entry)
    | none => none

/-- The record of a revisit. -/
def recordOf (item : CrawlItem) (wall : Calendar.Timestamp) (id : String)
    : Option CaptureEntry → ArchiveRecord
  | some entry => identicalDigestRecord item entry wall id
  | none => notModifiedRecord item wall id

/-- Gives an item that is a revisit its principal record and the remark of its kind. -/
def selectRevisit (item : CrawlItem) (wall : Calendar.Timestamp) (ids : IdSource)
    : Option RevisitKind × CrawlItem × IdSource :=
  match revisitKind? item with
  | none => (none, item, ids)
  | some (kind, entry) =>
    let (id, ids) := ids.draw
    let item :=
      { item.annotate kind.remark with
        records := item.records.insert .principal (recordOf item wall id entry) }
    (some kind, item, ids)

end WebHarvest.Archive
