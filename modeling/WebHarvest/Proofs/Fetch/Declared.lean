import WebHarvest.Proofs.Fetch.Attempted
import WebHarvest.Proofs.Fetch.TransferEnd
import WebHarvest.Proofs.Recording.Declared

/-! What becomes of a response whose declared body was recorded whole: nothing tells that it was cut
short, unless a rate is set, which the bytes that have come in still have to be paid at.
-/

namespace WebHarvest.Fetch

open Clock (Instant)
open Recording (ReadEnd RecordError Recorder Stream Tokens)

variable {α : Type}

-----------------------------------------------------------------------------------------
-- Transfers
-----------------------------------------------------------------------------------------

/-- How a transfer can end whose declared body was recorded whole. -/
def TransferEnd.IsWhole (paced : Bool) : TransferEnd → Prop
  | .unanswered _ => False
  | .lost _ _ => paced = true
  | .recorded _ .whole => True
  | .recorded _ .envelopeOnly => True
  | .recorded _ .untilTimeout => paced = true
  | .recorded _ .untilLimit => False
  | .stuck _ => True

namespace Transfer

theorem ending_ofReading_isWhole (head : Http.ResponseHead) (start answered : Instant)
    {reading : Recording.Reading α} {length : Nat} {paced : Bool}
    (reads : reading.ending.IsWhole length paced reading.recorder)
    (whole : length ≤ reading.recorder.bodySize)
    : (ofReading head start answered reading).ending.IsWhole paced := by
  unfold ofReading
  dsimp only
  split
  · trivial
  · rename_i elapsed expired
    exact (reads _ expired whole).1
  · rename_i limit exceeded
    obtain ⟨-, -, cancelled | ⟨elapsed, expired⟩⟩ := reads _ exceeded whole
    · cases cancelled
    · cases expired
  · rename_i why _ _ failed
    exact (reads why failed whole).1
  · trivial

variable [Tokens α] {config : FetchConfig} {launch : Launch} {cancelAt : Option Instant}
  {head : Http.ResponseHead} {body : Stream} {now : Instant}

omit [Tokens α] in
/-- Closing a recorder takes nothing from its body. -/
theorem bodySize_close (recorder : Recorder α) : recorder.close.bodySize = recorder.bodySize := by
  unfold Recorder.close
  split
  · rfl
  · rfl

/-- A recorder is paced while a body is read if a rate is set. -/
theorem isSome_bucket_recordEnvelope_start (started : Instant) (limits : Recording.Limits)
    (algorithm : Option DigestAlgorithm) (envelope : Bytes)
    : ((Recorder.start started limits algorithm : Recorder α).recordEnvelope
          envelope).1.bucket.isSome
      = decide (0 < limits.bytesPerSecond) := by
  let opened : Recorder α := .start started limits algorithm
  have same : (opened.recordEnvelope envelope).1.bucket = opened.bucket :=
    opened.bucket_write envelope false
  rw [same]
  by_cases paced : 0 < limits.bytesPerSecond
  · simp [opened, Recorder.start, paced]
  · simp [opened, Recorder.start, paced]

/-- The transfer of a request ends so if a declared length came with an envelope that fits. -/
theorem ending_run_isWhole {reply : Option Reply} {length : Nat}
    (obtained : obtained? launch.started cancelAt reply = some (head, body))
    (fits : 0 < launch.limits.hardMax → head.envelope.length ≤ launch.limits.hardMax)
    (declared : Http.declaredLength? head.headers = some length)
    (whole : length ≤ (run config launch cancelAt reply : Transfer α).recorder.bodySize)
    : (run config launch cancelAt reply : Transfer α).ending.IsWhole
        (decide (0 < launch.limits.bytesPerSecond)) := by
  obtain ⟨now, same⟩ := run_of_obtained (α := α) obtained
  rw [same, receive_of_fits fits, declared] at whole ⊢
  split
  · trivial
  · rename_i kept
    rw [if_neg kept] at whole
    have reads := Recorder.isWhole_read
      ((Recorder.start launch.started launch.limits config.digest? : Recorder α).recordEnvelope
        head.envelope).1 now cancelAt length body
    rw [isSome_bucket_recordEnvelope_start] at reads
    refine ending_ofReading_isWhole _ _ _ reads (Nat.le_trans whole ?_)
    exact Nat.le_of_eq (bodySize_close _)

end Transfer

-----------------------------------------------------------------------------------------
-- Attempts
-----------------------------------------------------------------------------------------

/-- Noting a status makes no remark. -/
theorem annotations_setStatus (item : CrawlItem) (status : FetchStatus)
    : (item.setStatus status).annotations = item.annotations := by
  obtain ⟨noted, same⟩ := exists_setStatus item status
  rw [same]

/-- A response makes one remark if it was not recorded whole. -/
theorem annotations_remarked (head : Http.ResponseHead) (extent : Extent) (item : CrawlItem)
    : (remarked head extent item).annotations = item.annotations ++ extent.remark?.toList := by
  have same : (observeHead head item).annotations = item.annotations :=
    annotations_setStatus item (.http head.status)
  cases extent with
  | whole => simpa [remarked, Extent.remark?] using same
  | envelopeOnly | untilTimeout | untilLimit =>
      simp [remarked, Extent.remark?, CrawlItem.annotate, same]

/-- A failure makes none. -/
theorem annotations_giveUp (status : FetchStatus) (why : FetchError) (wall : Calendar.Timestamp)
    (item : CrawlItem)
    : (giveUp status why wall item).annotations = item.annotations :=
  annotations_setStatus (item.addFailure why.message) status

/-- A recorded response makes that remark. -/
theorem annotations_landRecorded (fetcher : Fetcher) (launch : Launch)
    (recorder : Recorder α) (head : Http.ResponseHead) (extent : Extent) (wall : Calendar.Timestamp)
    (shared : Shared)
    : (fetcher.landRecorded launch recorder head extent wall shared).1.annotations
      = launch.item.annotations ++ extent.remark?.toList := by
  obtain ⟨_, _, _, _, _, shape⟩ :=
    landRecorded_shape fetcher launch recorder head extent wall shared
  rw [shape]
  exact annotations_remarked head extent launch.item

/-- The extent to which such a response was recorded tells of no length that was exceeded, and of a
timeout only if a rate is set.
-/
theorem TransferEnd.IsWhole.tells {head : Http.ResponseHead} {extent : Extent} {paced : Bool}
    (ends : (TransferEnd.recorded head extent).IsWhole paced)
    : extent.state ≠ .lengthTruncated
      ∧ (extent.state = .timedOutTruncated → paced = true)
      ∧ extent.state ≠ .connectLost
      ∧ Remark.lengthTruncated ∉ extent.remark?.toList
      ∧ (Remark.timeTruncated ∈ extent.remark?.toList → paced = true) := by
  cases extent with
  | whole => simp [Extent.state, Extent.remark?]
  | envelopeOnly =>
      refine ⟨by decide, ?_, by decide, by decide, ?_⟩
      · intro timed
        cases timed
      · exact fun timed => absurd timed (by decide)
  | untilTimeout => exact ⟨by decide, fun _ => ends, by decide, by decide, fun _ => ends⟩
  | untilLimit => exact ends.elim

/-- An attempt does not tell that a body was cut short which it has recorded whole, unless a rate is
set: its length is never held to be exceeded, and only the wait for bytes that came in too fast can
be timed out or lost.
-/
structure Execution.IsWhole (execution : Execution α) (before : CrawlItem) (paced : Prop) : Prop
    where
  inLength : execution.state ≠ .lengthTruncated
  inTime : execution.state = .timedOutTruncated → paced
  kept : execution.state = .connectLost → paced
  remarks
    : ∃ remarks,
        execution.item.annotations = before.annotations ++ remarks
        ∧ Remark.lengthTruncated ∉ remarks
        ∧ (Remark.timeTruncated ∈ remarks → paced)

/-- Every attempt is so, by cases of how its transfer ended. -/
theorem isWhole_of_execute? [Tokens α] {fetcher : Fetcher} {item : CrawlItem} {shared : Shared}
    {replies : List Reply} {wall : Calendar.Timestamp} {now : Instant} {cancelAt : Option Instant}
    {execution : Execution α} {head : Http.ResponseHead} {body : Stream} {length : Nat}
    (executed : fetcher.execute? item shared replies wall now cancelAt = some execution)
    (obtained : obtained? now cancelAt replies.head? = some (head, body))
    (fits
      : 0 < (fetcher.config.limits item.overrides).hardMax
        → head.envelope.length ≤ (fetcher.config.limits item.overrides).hardMax)
    (declared : Http.declaredLength? head.headers = some length)
    (whole : length ≤ execution.recorder.bodySize)
    : execution.IsWhole item (0 < (fetcher.config.limits item.overrides).bytesPerSecond) := by
  obtain ⟨landed, recorder, -⟩ := landed_of_execute? executed
  rw [recorder] at whole
  have ends
      : (Transfer.run fetcher.config (fetcher.launch shared.servers item wall now) cancelAt
          replies.head? : Transfer α).ending.IsWhole
          (decide (0 < (fetcher.config.limits item.overrides).bytesPerSecond)) :=
    Transfer.ending_run_isWhole obtained fits declared whole
  obtain ⟨why, ending, -⟩ | ⟨_, why, ending, made, -, state⟩
      | ⟨other, extent, ending, made, state⟩ := cases_of_land? landed
  · rw [ending] at ends
    exact ends.elim
  · rw [ending] at ends
    exact {
      inLength := by simp [state]
      inTime := by simp [state]
      kept := fun _ => of_decide_eq_true ends
      remarks := by
        refine ⟨[], ?_, by simp, by simp⟩
        rw [made, annotations_giveUp, List.append_nil]
        exact annotations_setStatus _ _
    }
  · rw [ending] at ends
    obtain ⟨inLength, inTime, kept, unremarked, timed⟩ := ends.tells
    have annotations := annotations_landRecorded fetcher
      (fetcher.launch shared.servers item wall now)
      (Transfer.run fetcher.config (fetcher.launch shared.servers item wall now) cancelAt
        replies.head? : Transfer α).recorder other extent wall shared
    rw [made] at annotations
    exact {
      inLength := state ▸ inLength
      inTime := fun expired => of_decide_eq_true (inTime (state.symm.trans expired))
      kept := fun lost => absurd (state.symm.trans lost) kept
      remarks :=
        ⟨_, annotations, unremarked, fun remarked => of_decide_eq_true (timed remarked)⟩
    }

/-- A read that ends with an error has recorded fewer bytes than were declared, unless a rate is set
and the deadline or a cancellation cuts short the wait in which the last of exactly so many bytes
are paid for. So an attempt that has recorded a declared body whole, behind an envelope that fits
under the cap, is never held to exceed its length, and is timed out or lost only at such a wait.
-/
theorem cutShort_only_if_paced (α : Type) [Tokens α]
    : (∀ (recorder : Recorder α) (now : Instant) (cancelAt : Option Instant) (length : Nat)
          (stream : Stream) (why : RecordError),
        let reading := recorder.read now cancelAt (some length) stream
        reading.ending = .failed why
        → reading.recorder.bodySize < length
          ∨ (recorder.bucket.isSome = true
            ∧ reading.recorder.bodySize = length
            ∧ (why = .cancelled ∨ ∃ elapsed, why = .timeout elapsed)))
      ∧ ∀ (fetcher : Fetcher) (item : CrawlItem) (shared : Shared) (replies : List Reply)
          (wall : Calendar.Timestamp) (now : Instant) (cancelAt : Option Instant)
          (execution : Execution α) (head : Http.ResponseHead) (body : Stream) (length : Nat),
        let limits := fetcher.config.limits item.overrides
        fetcher.execute? item shared replies wall now cancelAt = some execution
        → obtained? now cancelAt replies.head? = some (head, body)
        → (0 < limits.hardMax → head.envelope.length ≤ limits.hardMax)
        → Http.declaredLength? head.headers = some length
        → length ≤ execution.recorder.bodySize
        → execution.IsWhole item (0 < limits.bytesPerSecond) := by
  constructor
  · intro recorder now cancelAt length stream why reading failed
    rcases Nat.lt_or_ge reading.recorder.bodySize length with short | whole
    · exact .inl short
    · exact .inr (recorder.isWhole_read now cancelAt length stream why failed whole)
  · intro fetcher item shared replies wall now cancelAt execution head body length limits executed
      obtained fits declared whole
    exact isWhole_of_execute? executed obtained fits declared whole

/-- At a rate of one kilobyte a second and with a second of time, a body of two kilobytes and a byte
comes in at once, is recorded whole, and is reported to be cut short by its time.
-/
theorem cutShort_only_if_paced_unpaid
    : let url : Url :=
        ⟨"http", "", none, true, some (.domain "a"), none, .segments ["x"], none, none⟩
      let config :=
        { FetchConfig.standard with
          digestContent := false
          maxRate := 1
          timeoutSeconds := 1 }
      let fetcher : Fetcher := ⟨config, .empty, ⟨[]⟩⟩
      let head : Http.ResponseHead :=
        ⟨200, .http11, Http.Headers.ofList [("content-length", Text.utf8 "2049")]⟩
      let body : Stream := [.chunk (List.replicate 2049 97)]
      let recorder : Recorder Rat := .start 0 (config.limits .none) none
      let reading := recorder.read 0 none (some 2049) body
      (reading.ending = .failed (.timeout Clock.second) ∧ reading.recorder.bodySize = 2049)
      ∧ Http.declaredLength? head.headers = some 2049
      ∧ ∃ execution : Execution Rat,
          fetcher.execute? (.new url) .empty [⟨0, .response head body⟩] ⟨0, 0⟩ 0 none
            = some execution
          ∧ execution.recorder.bodySize = 2049
          ∧ execution.state = .timedOutTruncated
          ∧ execution.item.annotations = ["timeTrunc"] := by
  intro url config fetcher head body recorder reading
  have read : reading.ending = .failed (.timeout Clock.second)
      ∧ reading.recorder.bodySize = 2049 := by
    decide +kernel
  have outcome
      : (fetcher.execute? (.new url) .empty [⟨0, .response head body⟩] ⟨0, 0⟩ 0 none
          : Option (Execution Rat)).map
          (fun execution =>
            (execution.recorder.bodySize, execution.state, execution.item.annotations))
        = some (2049, .timedOutTruncated, ["timeTrunc"]) := by
    decide +kernel
  obtain ⟨execution, executed, told⟩ := Option.map_eq_some_iff.mp outcome
  simp only [Prod.mk.injEq] at told
  exact ⟨read, by decide +kernel, execution, executed, told⟩

end WebHarvest.Fetch
