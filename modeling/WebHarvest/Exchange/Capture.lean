import WebHarvest.Capture.History
import WebHarvest.Exchange.Item
import WebHarvest.Json.Reader
import WebHarvest.Json.Writer

/-! The JSON forms of captures, and of the snapshot in which a history is kept between crawls. -/

namespace WebHarvest

namespace CaptureKey

/-- A key by its text. -/
def toJson (key : CaptureKey) : Json :=
  .text key.text

/-- Reads a key; any text is one. -/
def ofJson? (j : Json) : Option CaptureKey :=
  j.text?.map CaptureKey.mk

end CaptureKey

namespace CaptureEntry

/-- An entry by its fields. -/
def toJson (entry : CaptureEntry) : Json :=
  .ofMembers
    [("original_url", .text entry.url),
     ("original_date", entry.date.toJson),
     ("record_id", .text entry.recordId),
     ("seen_count", .nat entry.seenCount)]

/-- Reads an entry. -/
def ofJson? (j : Json) : Option CaptureEntry := do
  let fields ← j.fields? Json.convention
    ["original_url", "original_date", "record_id", "seen_count"] false
  let url ← fields.required "original_url" Json.text?
  let date ← fields.required "original_date" Calendar.Timestamp.ofJson?
  let recordId ← fields.required "record_id" Json.text?
  let seenCount ← fields.required "seen_count" Json.count?
  return { url, date, recordId, seenCount }

end CaptureEntry

namespace CaptureHistory

/-- Entries by their keys. -/
def toJson (history : CaptureHistory) : Json :=
  .ofMembers (history.entries.map fun (key, entry) => (key.text, entry.toJson))

/-- The snapshot of a history. -/
def snapshot (history : CaptureHistory) : String :=
  history.toJson.render

/-- Reads entries by their keys; of equal keys the last one counts. -/
def ofJson? : Json → Option CaptureHistory
  | .object members => do
    let entries ← members.mapM fun (key, value) => do
      let key ← key
      let entry ← CaptureEntry.ofJson? value
      return (CaptureKey.mk key, entry)
    return ofList entries
  | _ => none

/-- Reads the bytes of a snapshot. -/
def ofSnapshot? (bytes : Bytes) : Option CaptureHistory :=
  (Json.readBytes? bytes).bind ofJson?

end CaptureHistory

end WebHarvest
