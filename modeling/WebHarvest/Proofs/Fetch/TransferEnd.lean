import WebHarvest.Fetch.Transfer
import WebHarvest.Proofs.Recording.BodyPrefix
import WebHarvest.Proofs.Recording.Closing
import WebHarvest.Proofs.Recording.ReadEnds

/-! How a transfer ends: without a response if none comes before a cancellation, else with that
response, and always with a closed recorder that holds an envelope and a body.
-/

namespace WebHarvest.Fetch

open Clock (Guard Instant)
open Recording (Recorder Stream Stuck Tokens)

-----------------------------------------------------------------------------------------
-- The response that comes of a request
-----------------------------------------------------------------------------------------

/-- When a reply comes in to a request that starts at `start`. -/
def Reply.due (reply : Reply) (start : Instant) : Instant :=
  if reply.delay == 0 then start else Clock.wake start reply.delay

theorem Reply.isReached_due (reply : Reply) (start : Instant)
    : Clock.IsReached start (reply.due start) := by
  unfold Reply.due
  split
  · exact .refl start
  · exact Clock.isReached_wake start _

/-- The response that comes of a request which starts at `start`. The reply has to be one, and a
cancellation may not come by the time it is due.
-/
def obtained? (start : Instant) (cancelAt : Option Instant) (reply : Option Reply)
    : Option (Http.ResponseHead × Stream) :=
  reply.bind fun reply =>
    match reply.answer with
    | .refusal _ => none
    | .response head body =>
      if Clock.isBefore (reply.due start) cancelAt then some (head, body) else none

theorem await_of_early {cancelAt : Option Instant} {start due : Instant}
    (early : Clock.isBefore due cancelAt = true)
    : Guard.await ⟨cancelAt, none⟩ start (some due) = .event due := by
  cases cancelAt with
  | none => rfl
  | some instant =>
      have early : due < instant := by simpa [Clock.isBefore] using early
      have late : ¬max start instant ≤ due := fun heard =>
        absurd early (Nat.not_lt_of_le (Nat.max_le.mp heard).2)
      simp [Guard.await, Guard.await.afterCancel, Clock.isBy, late]

theorem await_of_late {cancelAt : Option Instant} {start due : Instant} (onward : start ≤ due)
    (late : ¬Clock.isBefore due cancelAt = true)
    : ∃ moment, Guard.await ⟨cancelAt, none⟩ start (some due) = .cancelled moment := by
  cases cancelAt with
  | none => exact absurd rfl late
  | some instant =>
      have late : instant ≤ due := by simpa [Clock.isBefore] using late
      have heard : max start instant ≤ due := Nat.max_le.mpr ⟨onward, late⟩
      exact ⟨max start instant, by simp [Guard.await, Clock.isBy, heard]⟩

namespace Transfer

variable {α : Type} [Tokens α] {config : FetchConfig} {launch : Launch}
  {cancelAt : Option Instant} {reply : Option Reply} {head : Http.ResponseHead} {body : Stream}

/-- A request that is cancelled before it is sent ends at once. -/
theorem run_of_unsent (config : FetchConfig) {launch : Launch} {cancelAt : Option Instant}
    (unsent : launch.isSent cancelAt = false) (reply : Option Reply)
    : (run config launch cancelAt reply : Transfer α)
      = brief (.start launch.started launch.limits config.digest?)
          (.unanswered Launch.cancelledText) launch.started := by
  unfold run
  dsimp only
  rw [unsent, Bool.not_false, if_pos rfl]

/-- So does one that is sent where there is no reply. -/
theorem run_of_unreplied (config : FetchConfig) {launch : Launch} {cancelAt : Option Instant}
    (sent : launch.isSent cancelAt = true)
    : (run config launch cancelAt none : Transfer α)
      = brief (.start launch.started launch.limits config.digest?)
          (.unanswered Launch.unansweredText) launch.started := by
  unfold run
  dsimp only
  rw [sent, Bool.not_true, if_neg Bool.false_ne_true]

/-- What ends the wait for a reply tells how the transfer of a request goes on that was sent. -/
theorem run_of_sent (config : FetchConfig) {launch : Launch} {cancelAt : Option Instant}
    (sent : launch.isSent cancelAt = true) (reply : Reply)
    : (run config launch cancelAt (some reply) : Transfer α)
      = let recorder : Recorder α :=
          .start launch.started launch.limits config.digest?
        match Guard.await ⟨cancelAt, none⟩ launch.started (some (reply.due launch.started)) with
        | .event now =>
          match reply.answer with
          | .refusal why => brief recorder (.unanswered why) now
          | .response head body => receive config launch cancelAt recorder head body now
        | .cancelled now | .expired now =>
          brief recorder (.unanswered Launch.cancelledText) now
        | .never => brief recorder (.stuck .endless) launch.started := by
  unfold run
  dsimp only
  rw [sent, Bool.not_true, if_neg Bool.false_ne_true]
  rfl

/-- A request of which no response comes ends unanswered: it was not sent, was refused, or was
cancelled before the reply.
-/
theorem run_of_unobtained (unobtained : obtained? launch.started cancelAt reply = none)
    : ∃ why now,
        (run config launch cancelAt reply : Transfer α)
        = brief (.start launch.started launch.limits config.digest?) (.unanswered why) now := by
  cases sent : launch.isSent cancelAt with
  | false => exact ⟨_, _, run_of_unsent config sent reply⟩
  | true =>
      cases reply with
      | none => exact ⟨_, _, run_of_unreplied config sent⟩
      | some reply =>
          rw [run_of_sent config sent]
          by_cases early : Clock.isBefore (reply.due launch.started) cancelAt = true
          · rw [await_of_early early]
            cases answer : reply.answer with
            | refusal why => exact ⟨_, _, rfl⟩
            | response head body =>
                -- Nothing came between the request and this response.
                simp [obtained?, answer, early] at unobtained
          · obtain ⟨moment, cancelled⟩ := await_of_late (reply.isReached_due _).le early
            rw [cancelled]
            exact ⟨_, _, rfl⟩

/-- A response that comes of a request is received. -/
theorem run_of_obtained
    (obtained : obtained? launch.started cancelAt reply = some (head, body))
    : ∃ now,
        (run config launch cancelAt reply : Transfer α)
        = receive config launch cancelAt
            (.start launch.started launch.limits config.digest?) head body now := by
  obtain ⟨reply, rfl, comes⟩ := Option.bind_eq_some_iff.mp obtained
  split at comes
  · cases comes
  · rename_i other stream answer
    split at comes
    · rename_i early
      cases comes
      have sent : launch.isSent cancelAt = true :=
        Clock.isBefore_of_le (reply.isReached_due launch.started).le early
      refine ⟨reply.due launch.started, ?_⟩
      rw [run_of_sent config sent, await_of_early early, answer]
    · cases comes

end Transfer

-----------------------------------------------------------------------------------------
-- How the transfer of a response ends
-----------------------------------------------------------------------------------------

/-- The deadline of a request cannot be represented. -/
def Launch.IsOverdue (launch : Launch) : Prop :=
  ∃ timeout ∈ launch.limits.timeout,
    Clock.isRepresentable (launch.started + timeout) = false

/-- The body of a response with this head is read: the envelope fits under the cap on length, and
the rule does not reject the response of an item that may do without its body.
-/
structure Launch.Reads (launch : Launch) (config : FetchConfig) (head : Http.ResponseHead)
    : Prop where
  fits : 0 < launch.limits.hardMax → head.envelope.length ≤ launch.limits.hardMax
  wanted : launch.item.isPrerequisite = false → config.midfetchRule.rejects head.headers = false

/-- Which response a transfer was of, if it ends at all. -/
def TransferEnd.IsOf (head? : Option Http.ResponseHead) : TransferEnd → Prop
  | .unanswered _ => head? = none
  | .lost head _ => head? = some head
  | .recorded head _ => head? = some head
  | .stuck _ => True

namespace Transfer

variable {α : Type}

theorem ending_ofReading_isOf (head : Http.ResponseHead) (start answered : Instant)
    (reading : Recording.Reading α)
    : (ofReading head start answered reading).ending.IsOf (some head) := by
  unfold ofReading
  dsimp only
  split
  · rfl
  · rfl
  · rfl
  · rfl
  · trivial

/-- A transfer is stuck where the reading of its body is. -/
theorem ending_ofReading_stuck_iff {head : Http.ResponseHead} {start answered : Instant}
    {reading : Recording.Reading α} {why : Stuck}
    : (ofReading head start answered reading).ending = .stuck why
      ↔ reading.ending = .stuck why := by
  unfold ofReading
  dsimp only
  constructor
  · intro stuck
    split at stuck
    · cases stuck
    · cases stuck
    · cases stuck
    · cases stuck
    · rename_i reason ending
      cases stuck
      exact ending
  · intro stuck
    rw [stuck]

/-- What a transfer leaves is closed, and holds a first part of the envelope and of the body of the
response, if one came.
-/
structure IsRecording (transfer : Transfer α) (limits : Recording.Limits)
    (algorithm : Option DigestAlgorithm) (response? : Option (Http.ResponseHead × Stream))
    : Prop where
  isOpen : transfer.recorder.isOpen = false
  holds
    : ∃ envelope body,
        transfer.recorder.Holds limits algorithm envelope body
        ∧ envelope <+: response?.elim [] (·.1.envelope)
        ∧ body <+: response?.elim [] (·.2.body)

theorem isRecording_brief {recorder : Recorder α} {limits : Recording.Limits}
    {algorithm : Option DigestAlgorithm} {response? : Option (Http.ResponseHead × Stream)}
    {envelope : Bytes} (holds : recorder.Holds limits algorithm envelope [])
    (partly : envelope <+: response?.elim [] (·.1.envelope)) (ending : TransferEnd)
    (now : Instant)
    : (brief recorder ending now).IsRecording limits algorithm response? :=
  ⟨recorder.isOpen_close, _, _, holds.close, partly, List.nil_prefix⟩

theorem deadline?_recordEnvelope (recorder : Recorder α) (envelope : Bytes)
    : (recorder.recordEnvelope envelope).1.deadline? = recorder.deadline? := by
  cases isOpen : recorder.isOpen <;>
    simp [Recorder.recordEnvelope, Recorder.write, Recorder.deadline?, isOpen]

variable [Tokens α] {config : FetchConfig} {launch : Launch} {cancelAt : Option Instant}
  {recorder : Recorder α} {head : Http.ResponseHead} {body : Stream} {now : Instant}

/-- A response that is received ends as that response, by cases: its envelope is cut, refused or
whole, and in the last case its body is read or not.
-/
theorem ending_receive_isOf
    : (receive config launch cancelAt recorder head body now).ending.IsOf (some head) := by
  unfold receive
  split
  · rfl
  · rfl
  · split
    · rfl
    · exact ending_ofReading_isOf _ _ _ _

variable {limits : Recording.Limits} {algorithm : Option DigestAlgorithm} {envelope : Bytes}

/-- A recorder that was just opened lets in all of an envelope that fits under its cap. -/
theorem recordEnvelope_start_ok_iff {started : Instant} {bytes : Bytes}
    : ((Recorder.start started limits algorithm : Recorder α).recordEnvelope bytes).2 = .ok ()
      ↔ (0 < limits.hardMax → bytes.length ≤ limits.hardMax) := by
  by_cases capped : 0 < limits.hardMax
  · have dropped
        : min bytes.length limits.hardMax < bytes.length ↔ ¬bytes.length ≤ limits.hardMax := by
      omega
    simp [Recorder.recordEnvelope, Recorder.write, Recorder.start, Recorder.admitted, capped,
      dropped]
  · simp [Recorder.recordEnvelope, Recorder.write, Recorder.start, Recorder.admitted, capped]

/-- So the body of a response whose envelope fits is read behind the whole envelope, or not at all.
-/
theorem receive_of_fits
    (fits : 0 < launch.limits.hardMax → head.envelope.length ≤ launch.limits.hardMax)
    : let opened : Recorder α := .start launch.started launch.limits config.digest?
      let enveloped := (opened.recordEnvelope head.envelope).1
      receive config launch cancelAt opened head body now
      = if !launch.item.isPrerequisite && config.midfetchRule.rejects head.headers then
          brief enveloped (.recorded head .envelopeOnly) now
        else
          ofReading head launch.started now
            (enveloped.read now cancelAt (Http.declaredLength? head.headers) body) := by
  intro opened enveloped
  have whole : (opened.recordEnvelope head.envelope).2 = .ok () :=
    recordEnvelope_start_ok_iff.mpr fits
  unfold receive
  split
  · rename_i same
    cases whole.symm.trans (congrArg (·.2) same)
  · rename_i same
    cases whole.symm.trans (congrArg (·.2) same)
  · rename_i recorded same
    rw [show enveloped = recorded from congrArg (·.1) same]

/-- It is read if it is wanted. -/
theorem receive_of_reads (reads : launch.Reads config head)
    : let opened : Recorder α := .start launch.started launch.limits config.digest?
      receive config launch cancelAt opened head body now
      = ofReading head launch.started now
          ((opened.recordEnvelope head.envelope).1.read now cancelAt
            (Http.declaredLength? head.headers) body) := by
  intro opened
  have kept
      : (!launch.item.isPrerequisite && config.midfetchRule.rejects head.headers) = false := by
    simpa using reads.wanted
  rw [receive_of_fits reads.fits, kept]
  exact if_neg Bool.false_ne_true

/-- A response that is received gets stuck only while its body is read. -/
theorem reads_of_receive_stuck {why : Stuck}
    (stuck
      : (receive config launch cancelAt
          (.start launch.started launch.limits config.digest? : Recorder α) head body now).ending
        = .stuck why)
    : launch.Reads config head := by
  unfold receive at stuck
  split at stuck
  · cases stuck
  · cases stuck
  · rename_i recorded same
    split at stuck
    · cases stuck
    · rename_i kept
      exact {
        fits := recordEnvelope_start_ok_iff.mp (congrArg (·.2) same)
        wanted := by simpa using kept
      }

theorem isRecording_receive (holds : recorder.Holds limits algorithm [] [])
    (isOpen : recorder.isOpen = true)
    : (receive config launch cancelAt recorder head body now).IsRecording limits algorithm
        (some (head, body)) := by
  have enveloped := holds.recordEnvelope isOpen head.envelope
  have partly
      : recorder.accepted head.envelope <+: (some (head, body)).elim [] (·.1.envelope) :=
    recorder.accepted_isPrefix head.envelope
  rw [List.nil_append] at enveloped
  unfold receive
  split
  · rename_i recorded _ same
    rw [same] at enveloped
    exact isRecording_brief enveloped partly _ _
  · rename_i recorded _ _ same
    rw [same] at enveloped
    exact isRecording_brief enveloped partly _ _
  · rename_i recorded same
    rw [same] at enveloped
    split
    · exact isRecording_brief enveloped partly _ _
    · obtain ⟨portion, reads⟩ := Recording.Recorder.read_extends enveloped now cancelAt
        (Http.declaredLength? head.headers) body
      exact ⟨Recorder.isOpen_close _, _, _, reads.holds.close, partly, reads.isPrefix⟩

-----------------------------------------------------------------------------------------
-- How the transfer of a request ends
-----------------------------------------------------------------------------------------

/-- The transfer of any request leaves its recorder closed, and all that it tells agrees. -/
theorem isRecording_run (config : FetchConfig) (launch : Launch) (cancelAt : Option Instant)
    (reply : Option Reply)
    : (run config launch cancelAt reply : Transfer α).IsRecording launch.limits config.digest?
        (obtained? launch.started cancelAt reply) := by
  have nothing := Recorder.holds_start (α := α) launch.started launch.limits config.digest?
  cases obtained : obtained? launch.started cancelAt reply with
  | none =>
      obtain ⟨why, now, same⟩ := run_of_unobtained (α := α) obtained
      rw [same]
      exact isRecording_brief nothing List.nil_prefix _ _
  | some response =>
      obtain ⟨now, same⟩ := run_of_obtained (α := α) obtained
      rw [same]
      exact isRecording_receive nothing rfl

/-- It ends with the response that came of the request, and with none only if none came. -/
theorem ending_run_isOf (config : FetchConfig) (launch : Launch) (cancelAt : Option Instant)
    (reply : Option Reply)
    : (run config launch cancelAt reply : Transfer α).ending.IsOf
        ((obtained? launch.started cancelAt reply).map (·.1)) := by
  cases obtained : obtained? launch.started cancelAt reply with
  | none =>
      obtain ⟨why, now, same⟩ := run_of_unobtained (α := α) obtained
      rw [same]
      rfl
  | some response =>
      obtain ⟨now, same⟩ := run_of_obtained (α := α) obtained
      rw [same]
      exact ending_receive_isOf

/-- The deadline for reading the body is that of the request. -/
theorem isOverdue_recordEnvelope_start_iff {launch : Launch} {envelope : Bytes}
    : ((Recorder.start launch.started launch.limits algorithm : Recorder α).recordEnvelope
          envelope).1.IsOverdue
      ↔ launch.IsOverdue := by
  unfold Recorder.IsOverdue Launch.IsOverdue
  rw [deadline?_recordEnvelope, Recorder.deadline?]
  simp [Recorder.start]

/-- If the deadline of a request cannot be represented, reading the body of its response gets stuck.
-/
theorem ending_run_of_isOverdue (overdue : launch.IsOverdue)
    (obtained : obtained? launch.started cancelAt reply = some (head, body))
    (reads : launch.Reads config head)
    : (run config launch cancelAt reply : Transfer α).ending = .stuck .deadlineUnrepresentable := by
  obtain ⟨now, same⟩ := run_of_obtained (α := α) obtained
  rw [same, receive_of_reads reads, ending_ofReading_stuck_iff]
  exact Recorder.read_of_isOverdue (isOverdue_recordEnvelope_start_iff.mpr overdue) _ _ _ _

/-- It gets stuck in no other way but at a body that stalls, without a deadline or a cancellation.
-/
theorem run_of_stuck {why : Stuck}
    (stuck : (run config launch cancelAt reply : Transfer α).ending = .stuck why)
    : ∃ head body,
        obtained? launch.started cancelAt reply = some (head, body)
        ∧ launch.Reads config head
        ∧ ((why = .deadlineUnrepresentable ∧ launch.IsOverdue)
          ∨ (why = .endless
            ∧ body.stalls = true
            ∧ cancelAt = none
            ∧ launch.limits.timeout = none)) := by
  cases obtained : obtained? launch.started cancelAt reply with
  | none =>
      obtain ⟨_, _, same⟩ := run_of_unobtained (α := α) obtained
      rw [same] at stuck
      cases stuck
  | some response =>
      obtain ⟨head, body⟩ := response
      obtain ⟨now, same⟩ := run_of_obtained (α := α) obtained
      rw [same] at stuck
      have reads := reads_of_receive_stuck stuck
      rw [receive_of_reads reads, ending_ofReading_stuck_iff] at stuck
      refine ⟨head, body, rfl, reads, ?_⟩
      rcases Recorder.read_of_stuck stuck with ⟨rfl, overdue⟩ | ⟨rfl, stalls, alone, unbounded⟩
      · exact .inl ⟨rfl, isOverdue_recordEnvelope_start_iff.mp overdue⟩
      · rw [deadline?_recordEnvelope] at unbounded
        exact .inr ⟨rfl, stalls, alone, Option.map_eq_none_iff.mp unbounded⟩

/-- It does end, unless the deadline cannot be represented or a body that stalls is waited for
without a deadline and a cancellation.
-/
theorem ending_run_ne_stuck (config : FetchConfig) {launch : Launch} {cancelAt : Option Instant}
    {reply : Option Reply}
    (representable
      : ∀ timeout ∈ launch.limits.timeout,
          Clock.isRepresentable (launch.started + timeout) = true)
    (guarded
      : ∀ head body,
          obtained? launch.started cancelAt reply = some (head, body)
          → body.stalls = true
          → cancelAt.isSome ∨ launch.limits.timeout.isSome)
    (why : Stuck)
    : (run config launch cancelAt reply : Transfer α).ending ≠ .stuck why := by
  intro stuck
  obtain ⟨head, body, obtained, -, overdue | ⟨-, stalls, alone, unbounded⟩⟩ := run_of_stuck stuck
  · obtain ⟨-, timeout, set, unrepresentable⟩ := overdue
    simp [representable timeout set] at unrepresentable
  · simpa [alone, unbounded] using guarded head body obtained stalls

end Transfer

end WebHarvest.Fetch
