import WebHarvest.Proofs.Fetch.Attempted
import WebHarvest.Proofs.Fetch.TransferEnd

/-! How an attempt on an item ends: in one of six states, each of which tells what is on the item
afterwards. An attempt that is given up leaves a failure and nothing of a recording, one that is
recorded leaves the status of its response and the remark on what was cut off.
-/

namespace WebHarvest

open Calendar (Timestamp)

namespace CrawlItem

/-- Nothing of an attempt is on an item: it is new, or was made ready for another attempt. -/
def IsFresh (item : CrawlItem) : Prop :=
  item.reset = item

theorem isFresh_new (url : Url) : (new url).IsFresh :=
  rfl

theorem isFresh_reset (item : CrawlItem) : item.reset.IsFresh :=
  rfl

/-- An item on which an attempt has noted its beginning, and nothing of what it brings. -/
structure IsUnderWay (item before : CrawlItem) (wall : Timestamp) : Prop where
  begun : item.begun = some wall
  completed : item.completed = none
  annotations : item.annotations = []
  digest : item.digest = none
  recorded : item.recorded = none
  failures : item.failures = before.failures
  snapshots : item.snapshots = before.snapshots

theorem IsFresh.isUnderWay_setBegun {item : CrawlItem} (fresh : item.IsFresh) (wall : Timestamp)
    : (item.setBegun wall).IsUnderWay item wall ∧ (item.setBegun wall).status = none := by
  rw [← fresh]
  exact ⟨⟨rfl, rfl, rfl, rfl, rfl, rfl, rfl⟩, rfl⟩

end CrawlItem

namespace Fetch

open Clock (Instant)
open Recording (Recorder Tokens)

-----------------------------------------------------------------------------------------
-- What a state tells
-----------------------------------------------------------------------------------------

variable {α : Type}

/-- An attempt on an item was given up: the item has the status of a failure, one failure more than
before, and nothing that tells of a recording.
-/
structure Execution.IsGivenUp (execution : Execution α) (before : CrawlItem)
    (status : FetchStatus)
    : Prop where
  status : execution.item.status = some status
  failures : ∃ why, execution.item.failures = before.failures ++ [why]
  annotations : execution.item.annotations = []
  digest : execution.item.digest = none
  recorded : execution.item.recorded = none
  snapshots : execution.item.snapshots = before.snapshots

/-- An attempt on an item has recorded a response: the item has its status, no failure more than
before, the layout of the recording and the digest of the recorded body if that was read.
-/
structure Execution.IsRecorded (execution : Execution α) (before : CrawlItem)
    (head : Http.ResponseHead) (remarks : List String)
    : Prop where
  status : execution.item.status = some (.http head.status)
  failures : execution.item.failures = before.failures
  annotations : execution.item.annotations = remarks
  recorded
    : execution.item.recorded
      = some ⟨execution.recorder.size, execution.recorder.contentBegin,
          execution.envelope.length⟩
  digest
    : execution.item.digest
      = if execution.state = .midfetchAbort then none else execution.recorder.digest

/-- What the state of an attempt tells of its item, where `head?` is the head of the response that
came of the request.
-/
def Execution.Tells (execution : Execution α) (before : CrawlItem)
    (head? : Option Http.ResponseHead)
    : Prop :=
  match execution.state, head? with
  | .connectFailed, none => execution.IsGivenUp before .connectFailed
  | .connectLost, some _ => execution.IsGivenUp before .connectLost
  | .completed, some head => execution.IsRecorded before head []
  | .midfetchAbort, some head => execution.IsRecorded before head ["midFetchAbort"]
  | .timedOutTruncated, some head => execution.IsRecorded before head ["timeTrunc"]
  | .lengthTruncated, some head => execution.IsRecorded before head ["lenTrunc"]
  | _, _ => False

theorem Execution.Tells.state_eq_iff {execution : Execution α} {before : CrawlItem}
    {head? : Option Http.ResponseHead} (tells : execution.Tells before head?)
    : execution.state = .connectFailed ↔ head? = none := by
  unfold Tells at tells
  cases state : execution.state <;> cases head? <;> simp_all

-----------------------------------------------------------------------------------------
-- What landing leaves on an item that is under way
-----------------------------------------------------------------------------------------

/-- Giving up adds a failure, and sets the status whatever was noted before. -/
theorem giveUp_eq {status : FetchStatus} (failure : status.http? = none) (why : FetchError)
    (wall : Timestamp) (item : CrawlItem)
    : giveUp status why wall item
      = { item with
          failures := item.failures ++ [why.message]
          status := some status
          completed := item.completed.or (some wall) } := by
  unfold giveUp CrawlItem.setStatus
  split
  · cases failure
  · rfl

theorem observeHead_eq {item : CrawlItem} (undecided : item.status = none)
    (head : Http.ResponseHead)
    : observeHead head item
      = { item with
          status := some (.http head.status)
          contentType := head.contentType?
          response := some ⟨head.status, head.headers⟩ } := by
  unfold observeHead CrawlItem.setStatus
  rw [undecided]

theorem remarked_eq {item : CrawlItem} (undecided : item.status = none)
    (head : Http.ResponseHead) (extent : Extent)
    : remarked head extent item
      = { item with
          status := some (.http head.status)
          contentType := head.contentType?
          response := some ⟨head.status, head.headers⟩
          annotations := item.annotations ++ extent.remark?.toList } := by
  unfold remarked
  rw [observeHead_eq undecided]
  cases extent <;> simp [Extent.remark?, CrawlItem.annotate]

variable {execution : Execution α} {before item : CrawlItem} {wall : Timestamp}

theorem observeHead_isUnderWay (underWay : item.IsUnderWay before wall)
    (undecided : item.status = none) (head : Http.ResponseHead)
    : (observeHead head item).IsUnderWay before wall := by
  rw [observeHead_eq undecided head]
  exact { underWay with }

/-- An attempt that is over has noted when it began and when it was completed. -/
structure Execution.IsTimed (execution : Execution α) (wall : Timestamp) : Prop where
  begun : execution.item.begun = some wall
  completed : execution.item.completed = some wall

theorem isGivenUp_of_giveUp (underWay : item.IsUnderWay before wall) {status : FetchStatus}
    (failure : status.http? = none) {why : FetchError}
    (landed : execution.item = giveUp status why wall item)
    : execution.IsTimed wall ∧ execution.IsGivenUp before status := by
  rw [giveUp_eq failure] at landed
  constructor
  · exact {
      begun := by rw [landed, ← underWay.begun]
      completed := by rw [landed, underWay.completed, Option.none_or]
    }
  · exact {
      status := by rw [landed]
      failures := ⟨why.message, by rw [landed, underWay.failures]⟩
      annotations := by rw [landed, ← underWay.annotations]
      digest := by rw [landed, ← underWay.digest]
      recorded := by rw [landed, ← underWay.recorded]
      snapshots := by rw [landed, ← underWay.snapshots]
    }

/-- What is recorded is a response to the extent that the state names. -/
theorem isRecorded_of_landRecorded {fetcher : Fetcher} {launch : Launch}
    {head : Http.ResponseHead} {extent : Extent} {shared : Shared}
    (underWay : launch.item.IsUnderWay before wall) (undecided : launch.item.status = none)
    (envelope : execution.envelope = launch.request.envelope)
    (state : execution.state = extent.state)
    (landed
      : execution.item
        = (fetcher.landRecorded launch execution.recorder head extent wall shared).1)
    : execution.IsTimed wall ∧ execution.IsRecorded before head extent.remark?.toList := by
  obtain ⟨_, _, _, _, _, shape⟩ :=
    landRecorded_shape fetcher launch execution.recorder head extent wall shared
  rw [shape, remarked_eq undecided] at landed
  constructor
  · exact {
      begun := by rw [landed, ← underWay.begun]
      completed := by rw [landed, underWay.completed, Option.none_or]
    }
  · exact {
      status := by rw [landed]
      failures := by rw [landed, ← underWay.failures]
      annotations := by rw [landed, underWay.annotations, List.nil_append]
      recorded := by rw [landed, envelope]
      digest := by
        rw [landed, underWay.digest, state, Option.none_or]
        cases extent <;> rfl
    }

-----------------------------------------------------------------------------------------
-- The whole attempt
-----------------------------------------------------------------------------------------

/-- Whatever comes of the attempt on a fresh item, its state tells what is on the item, by cases of
how the transfer ended.
-/
theorem tells_of_execute? [Tokens α] {fetcher : Fetcher} {shared : Shared}
    {replies : List Reply} {now : Instant} {cancelAt : Option Instant} (fresh : item.IsFresh)
    (executed
      : fetcher.execute? item shared replies wall now cancelAt = some execution)
    : execution.IsTimed wall
      ∧ execution.Tells item ((obtained? now cancelAt replies.head?).map (·.1)) := by
  obtain ⟨landed, recorder, envelope⟩ := landed_of_execute? executed
  obtain ⟨underWay, undecided⟩ := fresh.isUnderWay_setBegun wall
  have isOf :=
    Transfer.ending_run_isOf (α := α) fetcher.config
      (fetcher.launch shared.servers item wall now) cancelAt replies.head?
  obtain ⟨why, ending, made, -, state⟩ | ⟨head, why, ending, made, -, state⟩
      | ⟨head, extent, ending, made, state⟩ := cases_of_land? landed
  · rw [ending] at isOf
    have unobtained : (obtained? now cancelAt replies.head?).map (·.1) = none := isOf
    obtain ⟨timed, givenUp⟩ := isGivenUp_of_giveUp underWay rfl made
    refine ⟨timed, ?_⟩
    simpa only [Execution.Tells, state, unobtained] using givenUp
  · rw [ending] at isOf
    have obtained : (obtained? now cancelAt replies.head?).map (·.1) = some head := isOf
    have observed := observeHead_isUnderWay underWay undecided head
    obtain ⟨timed, givenUp⟩ := isGivenUp_of_giveUp observed rfl made
    refine ⟨timed, ?_⟩
    simpa only [Execution.Tells, state, obtained] using givenUp
  · rw [ending] at isOf
    have obtained : (obtained? now cancelAt replies.head?).map (·.1) = some head := isOf
    rw [← recorder] at made
    obtain ⟨timed, isRecorded⟩ :=
      isRecorded_of_landRecorded underWay undecided envelope state (congrArg (·.1) made).symm
    refine ⟨timed, ?_⟩
    simp only [Execution.Tells, state, obtained]
    cases extent <;> exact isRecorded

/-- The attempt comes to an end if its transfer does. -/
theorem execute?_of_landing [Tokens α] (fetcher : Fetcher) (item : CrawlItem) (shared : Shared)
    (replies : List Reply) (wall : Timestamp) (now : Instant) (cancelAt : Option Instant)
    (unstuck
      : ∀ why,
          (Transfer.run fetcher.config (fetcher.launch shared.servers item wall now) cancelAt
              replies.head? : Transfer α).ending
          ≠ .stuck why)
    : ∃ execution : Execution α,
        fetcher.execute? item shared replies wall now cancelAt = some execution := by
  unfold Fetcher.execute? Fetcher.land?
  dsimp only
  split
  · exact ⟨_, rfl⟩
  · exact ⟨_, rfl⟩
  · exact ⟨_, rfl⟩
  · rename_i why stuck
    exact absurd stuck (unstuck why)

/-- Every attempt on a fresh item comes to an end, whatever is configured and whatever is replied,
if its deadline can be represented and a body that stalls is cut off by that deadline or by a
cancellation. It leaves a closed recorder and an item with a beginning and a completion; it has
failed to connect exactly if no response came; and its state tells what else is on the item.
-/
theorem Fetcher.execute?_terminal (α : Type) [Tokens α] (fetcher : Fetcher) {item : CrawlItem}
    (fresh : item.IsFresh) (shared : Shared) (replies : List Reply) (wall : Timestamp)
    (now : Instant) (cancelAt : Option Instant)
    (representable
      : ∀ timeout ∈ (fetcher.config.limits item.overrides).timeout,
          Clock.isRepresentable (now + timeout) = true)
    (guarded
      : ∀ head body,
          obtained? now cancelAt replies.head? = some (head, body)
          → body.stalls = true
          → cancelAt.isSome ∨ (fetcher.config.limits item.overrides).timeout.isSome)
    : ∃ execution : Execution α,
        fetcher.execute? item shared replies wall now cancelAt = some execution
        ∧ execution.recorder.isOpen = false
        ∧ execution.item.begun = some wall
        ∧ execution.item.completed = some wall
        ∧ (execution.state = .connectFailed ↔ obtained? now cancelAt replies.head? = none)
        ∧ execution.Tells item ((obtained? now cancelAt replies.head?).map (·.1)) := by
  obtain ⟨execution, executed⟩ :=
    execute?_of_landing (α := α) fetcher item shared replies wall now cancelAt
      (Transfer.ending_run_ne_stuck fetcher.config representable guarded)
  obtain ⟨-, recorder, -⟩ := landed_of_execute? executed
  obtain ⟨timed, tells⟩ := tells_of_execute? fresh executed
  have closed :=
    (Transfer.isRecording_run (α := α) fetcher.config
      (fetcher.launch shared.servers item wall now) cancelAt replies.head?).isOpen
  refine ⟨execution, executed, recorder ▸ closed, timed.begun, timed.completed, ?_, tells⟩
  rw [tells.state_eq_iff, Option.map_eq_none_iff]

/-- A body that stalls after its first bytes is cut off by the deadline, and the item has the digest
of those bytes.
-/
theorem Fetcher.execute?_terminal_stalled
    : let url : Url :=
        ⟨"http", "", none, true, some (.domain "a"), none, .segments ["x"], none, none⟩
      let fetcher : Fetcher := ⟨FetchConfig.standard, .empty, ⟨[]⟩⟩
      let limits := fetcher.config.limits (CrawlItem.new url).overrides
      let replies : List Reply :=
        [⟨5, .response ⟨206, .http11, .empty⟩ [.chunk [104, 105], .stall]⟩]
      (CrawlItem.new url).IsFresh
      ∧ (∀ timeout ∈ limits.timeout, Clock.isRepresentable (7 + timeout) = true)
      ∧ (∀ head body,
          obtained? 7 none replies.head? = some (head, body)
          → body.stalls = true
          → (none : Option Instant).isSome ∨ limits.timeout.isSome)
      ∧ ∃ execution : Execution Float,
          fetcher.execute? (.new url) .empty replies ⟨0, 0⟩ 7 none = some execution
          ∧ execution.recorder.isOpen = false
          ∧ execution.item.status = some (.http 206)
          ∧ execution.item.annotations = ["timeTrunc"]
          ∧ execution.item.digest = some (DigestAlgorithm.sha1.digest [104, 105]) := by
  intro url fetcher limits replies
  have fresh : (CrawlItem.new url).IsFresh := CrawlItem.isFresh_new url
  have representable
      : ∀ timeout ∈ limits.timeout, Clock.isRepresentable (7 + timeout) = true := by
    decide
  have guarded
      : ∀ head body,
          obtained? 7 none replies.head? = some (head, body)
          → body.stalls = true
          → (none : Option Instant).isSome ∨ limits.timeout.isSome := by
    intro head body obtained stalls
    exact .inr rfl
  refine ⟨fresh, representable, guarded, ?_⟩
  obtain ⟨execution, executed, closed, -, -, -, tells⟩ :=
    Fetcher.execute?_terminal Float fetcher fresh .empty replies ⟨0, 0⟩ 7 none representable
      guarded
  have outcome
      : (fetcher.execute? (.new url) .empty replies ⟨0, 0⟩ 7 none : Option (Execution Float)).map
          (fun execution => (execution.state, execution.recorder.digest))
        = some (.timedOutTruncated, some (DigestAlgorithm.sha1.digest [104, 105])) := by
    decide +kernel
  rw [executed, Option.map_some, Option.some.injEq, Prod.mk.injEq] at outcome
  obtain ⟨state, digest⟩ := outcome
  have obtained
      : (obtained? 7 none replies.head?).map (·.1) = some ⟨206, .http11, .empty⟩ := by
    decide
  rw [obtained] at tells
  have recorded : execution.IsRecorded (.new url) ⟨206, .http11, .empty⟩ ["timeTrunc"] := by
    simpa only [Execution.Tells, state] using tells
  refine ⟨execution, executed, closed, recorded.status, recorded.annotations, ?_⟩
  rw [recorded.digest, state, digest]
  rfl

end Fetch

end WebHarvest
