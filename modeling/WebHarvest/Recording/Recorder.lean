import WebHarvest.Clock.Elapsed
import WebHarvest.Clock.Guard
import WebHarvest.Digest.Content
import WebHarvest.Recording.Spool
import WebHarvest.Recording.Stream
import WebHarvest.Recording.TokenBucket

/-! Bounded recording of one response: the envelope first, then the body under a cap on length, a
deadline and a byte rate. Only body bytes are digested. -/

namespace WebHarvest.Recording

open Clock (Instant)

/-- Bounds of one fetch. A cap or rate of zero is none; the timeout is in nanoseconds. -/
structure Limits where
  hardMax : Nat
  timeout : Option Nat
  bytesPerSecond : Nat
  deriving DecidableEq, Repr

/-- Why recording stopped before the stream ended by itself. -/
inductive RecordError where
  | timeout (elapsed : Nat)
  | lengthExceeded (limit : Nat)
  | cancelled
  | stream (why : String)
  | closed
  deriving DecidableEq, Repr

namespace RecordError

/-- The wording of an error. -/
def message : RecordError → String
  | timeout elapsed => "read timed out after " ++ Clock.elapsedText elapsed
  | lengthExceeded limit => "recorded length reached the " ++ toString limit ++ " byte limit"
  | cancelled => "recording cancelled"
  | stream why => "stream failed: " ++ why
  | closed => "recorder is closed"

/-- Whether the bytes recorded so far stay valid. -/
def isTruncation : RecordError → Bool
  | timeout _ => true
  | lengthExceeded _ => true
  | _ => false

end RecordError

/-- Why reading comes to no end at all: it waits for nothing, or its deadline is beyond what the
clock can represent. -/
inductive Stuck where
  | endless
  | deadlineUnrepresentable
  deriving DecidableEq, Repr

/-- A recorder. The bucket is there if the rate is bounded, the hasher while a digest is being
computed, and the digest once it is finished. -/
structure Recorder (α : Type) where
  limits : Limits
  started : Instant
  bucket : Option (TokenBucket α)
  hasher : Option Hasher
  digest : Option ContentDigest
  spool : Spool
  size : Nat
  contentBegin : Nat
  isOpen : Bool

namespace Recorder

variable {α : Type} [Tokens α]

/-- A recorder without bytes, whose deadline counts from `now`. -/
def start (now : Instant) (limits : Limits) (algorithm : Option DigestAlgorithm) : Recorder α where
  limits := limits
  started := now
  bucket :=
    if 0 < limits.bytesPerSecond then some (.perSecond now limits.bytesPerSecond) else none
  hasher := algorithm.map Hasher.start
  digest := none
  spool := .empty
  size := 0
  contentBegin := 0
  isOpen := true

/-- Bytes recorded since the envelope. -/
def bodySize (recorder : Recorder α) : Nat :=
  recorder.size - recorder.contentBegin

/-- How many of `count` bytes the cap on length lets in. -/
def admitted (recorder : Recorder α) (count : Nat) : Nat :=
  if 0 < recorder.limits.hardMax then min count (recorder.limits.hardMax - recorder.size)
  else count

/-- Records as many bytes as the cap lets in, and fails if any had to be dropped. -/
def write (recorder : Recorder α) (bytes : Bytes) (digested : Bool)
    : Recorder α × Except RecordError Unit :=
  if recorder.isOpen then
    let take := recorder.admitted bytes.length
    let kept := bytes.take take
    let written :=
      { recorder with
        spool := recorder.spool.write kept
        hasher := if digested then recorder.hasher.map (·.update kept) else recorder.hasher
        size := recorder.size + take }
    (written,
      if take < bytes.length then .error (.lengthExceeded recorder.limits.hardMax) else .ok ())
  else (recorder, .error .closed)

/-- Records the envelope. The body begins where the envelope, or what was kept of it, ends. -/
def recordEnvelope (recorder : Recorder α) (envelope : Bytes)
    : Recorder α × Except RecordError Unit :=
  let (written, result) := recorder.write envelope false
  ({ written with contentBegin := written.size }, result)

/-- Finishes the digest; a closed recorder is left alone. -/
def close (recorder : Recorder α) : Recorder α :=
  if recorder.isOpen then
    { recorder with
      isOpen := false
      hasher := none
      digest := (recorder.hasher.map Hasher.finish).or recorder.digest }
  else recorder

/-- All recorded bytes, the envelope first. -/
def replay (recorder : Recorder α) : Bytes × Recorder α :=
  let (bytes, spool) := recorder.spool.replay
  (bytes, { recorder with spool })

end Recorder

end WebHarvest.Recording
