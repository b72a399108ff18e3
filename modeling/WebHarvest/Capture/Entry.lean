import WebHarvest.Calendar.Timestamp
import WebHarvest.Digest.Content

/-! Captures of content: the key under which a content is known, and the first capture of it. -/

namespace WebHarvest

/-- The text under which a content is known. -/
structure CaptureKey where
  text : String
  deriving DecidableEq, Repr

namespace CaptureKey

/-- The key of a digest. -/
def ofDigest (digest : ContentDigest) : CaptureKey :=
  ⟨digest.text⟩

/-- The key of a digest together with the length of the content. -/
def ofDigestAndLength (digest : ContentDigest) (length : Nat) : CaptureKey :=
  ⟨digest.text ++ ":" ++ toString length⟩

end CaptureKey

/-- A capture that is to be recorded. -/
structure Capture where
  url : String
  date : Calendar.Timestamp
  recordId : String
  deriving DecidableEq, Repr

/-- The first capture of a content, and how often the content was recorded. -/
structure CaptureEntry where
  url : String
  date : Calendar.Timestamp
  recordId : String
  seenCount : Nat
  deriving DecidableEq, Repr

/-- The entry of a content that is recorded for the first time. -/
def Capture.first (capture : Capture) : CaptureEntry :=
  ⟨capture.url, capture.date, capture.recordId, 1⟩

/-- Counts are kept in sixty-four bits. -/
def countModulus : Nat := Nat.pow 2 64

/-- The entry after its content was recorded once more. -/
def CaptureEntry.again (entry : CaptureEntry) : CaptureEntry :=
  { entry with seenCount := (entry.seenCount + 1) % countModulus }

end WebHarvest
