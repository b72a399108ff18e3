import WebHarvest.Fetch.Fetcher
import WebHarvest.Recording.Reading

/-! The way of one request from being sent until its response is recorded or given up. It changes
nothing but its recorder, so that all of it follows from its start, its cancellation and the
reply. -/

namespace WebHarvest.Fetch

open Clock (Instant Wake)
open Recording (ReadEnd RecordError Recorder Tokens)

/-- An answer to a request: none at all, or a response whose body is still to come. -/
inductive Answer where
  | refusal (why : String)
  | response (head : Http.ResponseHead) (body : Recording.Stream)
  deriving DecidableEq, Repr

/-- An answer with the nanoseconds after which it comes. -/
structure Reply where
  delay : Nat
  answer : Answer
  deriving DecidableEq, Repr

/-- A request that is about to be sent. -/
structure Launch where
  item : CrawlItem
  limits : Recording.Limits
  request : Http.Request
  presented : Bool
  started : Instant

/-- How much of a response was recorded: all of it, the envelope only, or what its time or its
length let in. -/
inductive Extent where
  | whole
  | envelopeOnly
  | untilTimeout
  | untilLimit
  deriving DecidableEq, Repr

/-- How a transfer ends: without a response, with one that is lost while it is read, or with one of
which some extent is recorded. -/
inductive TransferEnd where
  | unanswered (why : String)
  | lost (head : Http.ResponseHead) (why : RecordError)
  | recorded (head : Http.ResponseHead) (extent : Extent)
  | stuck (why : Recording.Stuck)
  deriving DecidableEq, Repr

/-- A transfer that is over: its recorder, its end, the instant, the instants of waking that led to
it since its start, and all its wakes, the last one first. -/
structure Transfer (α : Type) where
  recorder : Recorder α
  ending : TransferEnd
  now : Instant
  line : List Instant
  wakes : List Wake

namespace Fetcher

/-- The request for an item and all that its transfer depends on. -/
def launch (fetcher : Fetcher) (servers : Access.ServerCache) (item : CrawlItem)
    (wall : Calendar.Timestamp) (now : Instant) : Launch :=
  let item := item.setBegun wall
  let limits := fetcher.config.limits item.overrides
  let (request, presented) := fetcher.request servers item limits
  { item, limits, request, presented, started := now }

end Fetcher

namespace Launch

/-- Whether the request is sent at all, which a cancellation before its start prevents. -/
def isSent (launch : Launch) (cancelAt : Option Instant) : Bool :=
  Clock.isBefore launch.started cancelAt

/-- Why a request ends that nobody waits for any more. -/
def cancelledText : String := "cancelled before response"

/-- Why a request ends for which there is no reply. -/
def unansweredText : String := "no reply queued"

end Launch

namespace Transfer

variable {α : Type} [Tokens α]

/-- The instants of waking after the wait for an answer. -/
def answerLine (start now : Instant) : List Instant :=
  if now == start then [] else [now]

/-- A transfer that ends without its body being read. -/
def brief (recorder : Recorder α) (ending : TransferEnd) (now : Instant) : Transfer α :=
  let line := answerLine recorder.started now
  ⟨recorder.close, ending, now, line, Clock.wakesAlong [] line⟩

/-- A transfer whose body has been read. -/
def ofReading (head : Http.ResponseHead) (start answered : Instant)
    (reading : Recording.Reading α) : Transfer α :=
  let ending := match reading.ending with
    | .complete => .recorded head .whole
    | .failed (.timeout _) => .recorded head .untilTimeout
    | .failed (.lengthExceeded _) => .recorded head .untilLimit
    | .failed why => .lost head why
    | .stuck why => .stuck why
  let earlier := answerLine start answered
  let wakes := reading.wakes.map fun wake => { wake with since := wake.since ++ earlier }
  ⟨reading.recorder.close, ending, reading.now, reading.line ++ earlier,
    wakes ++ Clock.wakesAlong [] earlier⟩

/-- Records a response that has come in at `now`: the envelope, and the body unless the rule rejects
it for an item that may do without. -/
def receive (config : FetchConfig) (launch : Launch) (cancelAt : Option Instant)
    (recorder : Recorder α) (head : Http.ResponseHead) (body : Recording.Stream) (now : Instant)
    : Transfer α :=
  match recorder.recordEnvelope head.envelope with
  | (recorder, .error (.lengthExceeded _)) => brief recorder (.recorded head .untilLimit) now
  | (recorder, .error why) => brief recorder (.lost head why) now
  | (recorder, .ok ()) =>
    if !launch.item.isPrerequisite && config.midfetchRule.rejects head.headers then
      brief recorder (.recorded head .envelopeOnly) now
    else
      .ofReading head launch.started now
        (recorder.read now cancelAt (Http.declaredLength? head.headers) body)

/-- The whole transfer of a request. A cancellation that is due with the answer comes before it. -/
def run (config : FetchConfig) (launch : Launch) (cancelAt : Option Instant)
    (reply : Option Reply) : Transfer α :=
  let start := launch.started
  let recorder := Recorder.start start launch.limits config.digest?
  if !launch.isSent cancelAt then brief recorder (.unanswered Launch.cancelledText) start
  else
    match reply with
    | none => brief recorder (.unanswered Launch.unansweredText) start
    | some reply =>
      let due := if reply.delay == 0 then start else Clock.wake start reply.delay
      match Clock.Guard.await ⟨cancelAt, none⟩ start (some due) with
      | .event now =>
        match reply.answer with
        | .refusal why => brief recorder (.unanswered why) now
        | .response head body => receive config launch cancelAt recorder head body now
      | .cancelled now | .expired now => brief recorder (.unanswered Launch.cancelledText) now
      | .never => brief recorder (.stuck .endless) start

end Transfer

end WebHarvest.Fetch
