import WebHarvest.Calendar.Rfc3339
import WebHarvest.Item.Snapshot
import WebHarvest.Item.Status
import WebHarvest.Json.Fields

/-! The JSON forms of what belongs to an item: its method, status, overrides and snapshots. -/

namespace WebHarvest

namespace Calendar.Timestamp

/-- An instant in the exchange form. -/
def toJson (t : Timestamp) : Json :=
  .text t.rfc3339

/-- Reads the exchange form. -/
def ofJson? (j : Json) : Option Timestamp :=
  j.text?.bind Rfc3339.read?

end Calendar.Timestamp

namespace DigestAlgorithm

/-- An algorithm by its name. -/
def toJson (algorithm : DigestAlgorithm) : Json :=
  .text algorithm.name

/-- Reads a name. -/
def ofJson? (j : Json) : Option DigestAlgorithm :=
  j.text?.bind fun text => (ofName text).toOption

end DigestAlgorithm

namespace ContentDigest

/-- A digest by its text. -/
def toJson (digest : ContentDigest) : Json :=
  .text digest.text

/-- Reads a digest's text. -/
def ofJson? (j : Json) : Option ContentDigest :=
  j.text?.bind fun text => (ofText text).toOption

end ContentDigest

namespace FetchMethod

/-- A method by its name. -/
def toJson (method : FetchMethod) : Json :=
  .text method.text

/-- Reads a method. -/
def ofJson? (j : Json) : Option FetchMethod :=
  match j.choice? Json.convention with
  | some "GET" => some get
  | some "POST" => some post
  | _ => none

end FetchMethod

namespace FetchStatus

/-- A status: a code under its kind, or the name of a failure. -/
def toJson : FetchStatus → Json
  | http code => .ofMembers [("Http", .nat code)]
  | connectFailed => .text "ConnectFailed"
  | connectLost => .text "ConnectLost"
  | prerequisiteFailed => .text "DomainPrerequisiteFailure"

/-- Reads a status. Codes fit into sixteen bits. -/
def ofJson? : Json → Option FetchStatus
  | .object [(some "Http", code)] => (code.natBelow? (Nat.pow 2 16)).map http
  | j =>
    match j.choice? Json.convention with
    | some "ConnectFailed" => some connectFailed
    | some "ConnectLost" => some connectLost
    | some "DomainPrerequisiteFailure" => some prerequisiteFailed
    | _ => none

end FetchStatus

namespace FetchOverrides

/-- The three bounds by their names. -/
def toJson (overrides : FetchOverrides) : Json :=
  .ofMembers
    [("max_length_bytes", .orNull .nat overrides.maxLength),
     ("timeout_seconds", .orNull .nat overrides.timeoutSeconds),
     ("max_fetch_kb_sec", .orNull .nat overrides.maxRate)]

/-- Reads the three bounds, any of which may be missing. -/
def ofJson? (j : Json) : Option FetchOverrides := do
  let fields ← j.fields? Json.convention
    ["max_length_bytes", "timeout_seconds", "max_fetch_kb_sec"] false
  let maxLength ← fields.optional "max_length_bytes" Json.count?
  let timeoutSeconds ← fields.optional "timeout_seconds" Json.count?
  let maxRate ← fields.optional "max_fetch_kb_sec" Json.count?
  return { maxLength, timeoutSeconds, maxRate }

end FetchOverrides

namespace FetchSnapshot

/-- A snapshot by its fields. -/
def toJson (snapshot : FetchSnapshot) : Json :=
  .ofMembers
    [("status", .int snapshot.status),
     ("fetched_at", snapshot.fetchedAt.toJson),
     ("etag", .orNull .text snapshot.etag),
     ("last_modified", .orNull .text snapshot.lastModified),
     ("content_digest", .orNull ContentDigest.toJson snapshot.digest),
     ("reference_length", .orNull .nat snapshot.referenceLength)]

/-- Reads a snapshot. The status fits into thirty-two bits with a sign. -/
def ofJson? (j : Json) : Option FetchSnapshot := do
  let fields ← j.fields? Json.convention
    ["status", "fetched_at", "etag", "last_modified", "content_digest", "reference_length"] false
  let status ← fields.required "status" (Json.intBetween? (-Int.pow 2 31) (Int.pow 2 31))
  let fetchedAt ← fields.required "fetched_at" Calendar.Timestamp.ofJson?
  let etag ← fields.optional "etag" Json.text?
  let lastModified ← fields.optional "last_modified" Json.text?
  let digest ← fields.optional "content_digest" ContentDigest.ofJson?
  let referenceLength ← fields.optional "reference_length" Json.count?
  return { status, fetchedAt, etag, lastModified, digest, referenceLength }

end FetchSnapshot

end WebHarvest
