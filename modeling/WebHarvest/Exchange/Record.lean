import WebHarvest.Archive.Record
import WebHarvest.Json.Basic

/-! The JSON forms in which archive records are reported. -/

namespace WebHarvest.Archive

/-- Labelled values in order; a label that occurs more than once does so here. -/
def NamedFields.toJson (fields : NamedFields) : Json :=
  .ofMembers (fields.entries.map fun (label, value) => (label, .text value))

/-- A record by its fields. -/
def ArchiveRecord.toJson (record : ArchiveRecord) : Json :=
  .ofMembers
    [("record_type", .text record.type.text),
     ("url", .text record.url),
     ("create_timestamp", .text record.date),
     ("record_id", .text record.id),
     ("mimetype", .text record.mimetype),
     ("content_length", .nat record.contentLength),
     ("enforce_length", .bool record.enforceLength),
     ("extra_headers", record.fields.toJson)]

/-- The records by the names of their roles. -/
def RecordSet.toJson (records : RecordSet) : Json :=
  .ofMembers (records.entries.map fun (role, record) => (role.text, record.toJson))

end WebHarvest.Archive
