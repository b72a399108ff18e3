import WebHarvest.Clock.Wake
import WebHarvest.Recording.Recorder

/-! Reading a body into a recorder until the stream ends, as many bytes as declared have come in, or
something cuts it short. -/

namespace WebHarvest.Recording

open Clock (Instant Wake)

/-- How reading a body ends. -/
inductive ReadEnd where
  | complete
  | failed (error : RecordError)
  | stuck (why : Stuck)
  deriving DecidableEq, Repr

/-- What reading has come to: the recorder, the instant, the instants of waking that led to it, and
all wakes of the reader, the last one first. -/
structure Course (α : Type) where
  recorder : Recorder α
  now : Instant
  line : List Instant
  wakes : List Wake

/-- A body that has been read. -/
structure Reading (α : Type) extends Course α where
  ending : ReadEnd

namespace Course

variable {α : Type}

/-- The reading that ends here. -/
def finish (course : Course α) (ending : ReadEnd) : Reading α :=
  { course with ending }

/-- After an event at `moment`, before which the stream made pauses that ended at some instants, the
last one first. -/
def proceed (course : Course α) (moment : Instant) (pauses : List Instant) : Course α :=
  { course with
    now := moment
    line := pauses ++ course.line
    wakes := Clock.wakesAlong course.line pauses ++ course.wakes }

/-- After a wait that something else than the stream ended at `moment`. -/
def breakOff (course : Course α) (moment : Instant) (pauses : List Instant) : Course α :=
  if moment == course.now then course
  else
    let before := (Clock.wakesAlong course.line pauses).filter (·.moment < moment)
    { course with
      now := moment
      line := moment :: course.line
      wakes := ⟨moment, course.line⟩ :: before ++ course.wakes }

/-- How a wait that was not for the event ends the reading. -/
def interrupted (course : Course α) (pauses : List Instant) : Clock.Wait → Reading α
  | .cancelled moment => (course.breakOff moment pauses).finish (.failed .cancelled)
  | .expired moment =>
    (course.breakOff moment pauses).finish
      (.failed (.timeout (moment - course.recorder.started)))
  | .event moment => (course.proceed moment pauses).finish .complete
  | .never => { course.proceed course.now pauses with ending := .stuck .endless }

end Course

namespace Recorder

variable {α : Type} [Tokens α]

/-- The instant at which reading is cut short: the recorder's start and its timeout. -/
def deadline? (recorder : Recorder α) : Option Instant :=
  recorder.limits.timeout.map (recorder.started + ·)

/-- Whether as many body bytes as declared have been recorded. -/
def isFilled (recorder : Recorder α) (declared : Option Nat) : Bool :=
  declared.any (· ≤ recorder.bodySize)

/-- The part of a chunk that is not beyond the declared length. -/
def withinDeclared (recorder : Recorder α) (declared : Option Nat) (chunk : Bytes) : Bytes :=
  match declared with
  | some length => chunk.take (length - recorder.bodySize)
  | none => chunk

end Recorder

namespace Course

variable {α : Type} [Tokens α]

/-- Takes tokens for bytes that were recorded, and waits under the guard until they are paid for.
Gives the course after the wait, or the reading that the guard ended. -/
def pay (course : Course α) (guard : Clock.Guard) (count : Nat)
    : Except (Reading α) (Course α) :=
  match course.recorder.bucket with
  | none => .ok course
  | some bucket =>
    -- A guard that is due already comes before the reservation.
    match guard.await course.now (some course.now) with
    | .event _ =>
      let (paid, bucket) := bucket.acquire course.now count
      let course := { course with recorder := { course.recorder with bucket := some bucket } }
      match guard.await course.now (some paid) with
      | .event moment => .ok (course.breakOff moment [])
      | cut => .error (course.interrupted [] cut)
    | cut => .error (course.interrupted [] cut)

/-- Reads on while the stream lasts. The reader waits since the course's instant; in `pauses` are
the ends of the pauses that the stream has made since then, the last one first. -/
def pull (guard : Clock.Guard) (declared : Option Nat)
    : Course α → List Instant → Stream → Reading α
  | course, pauses, [] =>
    match guard.await course.now (some (pauses.head?.getD course.now)) with
    | .event moment => (course.proceed moment pauses).finish .complete
    | cut => course.interrupted pauses cut
  | course, pauses, .stall :: _ => course.interrupted pauses (guard.await course.now none)
  | course, pauses, .pause nanos :: rest =>
    let reached := pauses.head?.getD course.now
    let moment := Clock.wake reached nanos
    pull guard declared course (if moment == reached then pauses else moment :: pauses) rest
  | course, pauses, .failure why :: _ =>
    match guard.await course.now (some (pauses.head?.getD course.now)) with
    | .event moment => (course.proceed moment pauses).finish (.failed (.stream why))
    | cut => course.interrupted pauses cut
  | course, pauses, .chunk bytes :: rest =>
    match guard.await course.now (some (pauses.head?.getD course.now)) with
    | .event moment =>
      let course := course.proceed moment pauses
      if bytes.isEmpty then pull guard declared course [] rest
      else
        let kept := course.recorder.withinDeclared declared bytes
        let (recorder, written) := course.recorder.write kept true
        let course := { course with recorder }
        match written with
        | .error error => course.finish (.failed error)
        | .ok () =>
          match course.pay guard kept.length with
          | .error reading => reading
          | .ok course =>
            if course.recorder.isFilled declared then course.finish .complete
            else pull guard declared course [] rest
    | cut => course.interrupted pauses cut

end Course

/-- Reads a body from `now` on. `declared` is the length after which no more is read, and
`cancelAt` the instant of cancellation. -/
def Recorder.read {α : Type} [Tokens α] (recorder : Recorder α) (now : Instant)
    (cancelAt : Option Instant) (declared : Option Nat) (stream : Stream) : Reading α :=
  let course : Course α := ⟨recorder, now, [], []⟩
  if recorder.deadline?.any (!Clock.isRepresentable ·) then
    course.finish (.stuck .deadlineUnrepresentable)
  else if recorder.isFilled declared then course.finish .complete
  else course.pull ⟨cancelAt, recorder.deadline?⟩ declared [] stream

end WebHarvest.Recording
