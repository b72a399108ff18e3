import WebHarvest.Text.Utf8

/-! The body of a response as it arrives: chunks, failures, and the time between them. -/

namespace WebHarvest.Recording

/-- One thing that happens to a body: bytes come in, the connection fails, a number of nanoseconds
passes, or nothing ever happens again. -/
inductive StreamEvent where
  | chunk (bytes : Bytes)
  | failure (why : String)
  | pause (nanos : Nat)
  | stall
  deriving DecidableEq, Repr

/-- A body that has not been read yet. After its last event it ends. -/
abbrev Stream := List StreamEvent

namespace Stream

/-- The bytes that come in before the first failure or stall. -/
def body : Stream → Bytes
  | [] => []
  | .chunk bytes :: rest => bytes ++ body rest
  | .pause _ :: rest => body rest
  | .failure _ :: _ => []
  | .stall :: _ => []

/-- The failure that a stream comes to before it ends or stalls, if any. -/
def failure? : Stream → Option String
  | [] => none
  | .chunk _ :: rest => failure? rest
  | .pause _ :: rest => failure? rest
  | .failure why :: _ => some why
  | .stall :: _ => none

end Stream

end WebHarvest.Recording
