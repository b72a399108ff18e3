import WebHarvest.Calendar.Timestamp
import WebHarvest.Digest.Content

/-! What an attempt leaves behind for later attempts on the same URL. -/

namespace WebHarvest

/-- The status of an attempt with its beginning, the validators of the response, the digest of the
content, and the recorded length that a later response without a body refers to. -/
structure FetchSnapshot where
  status : Int
  fetchedAt : Calendar.Timestamp
  etag : Option String
  lastModified : Option String
  digest : Option ContentDigest
  referenceLength : Option Nat
  deriving DecidableEq, Repr

end WebHarvest
