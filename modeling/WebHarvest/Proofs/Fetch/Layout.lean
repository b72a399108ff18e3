import WebHarvest.Proofs.Fetch.Outcome

/-! How the bytes of a recorded response are laid out: the envelope of its head comes first, or as
much of it as the cap on length lets in, and the body behind it. The sizes that an attempt notes on
its item count just these bytes.
-/

namespace WebHarvest.Fetch

open Calendar (Timestamp)
open Clock (Instant)
open Recording (Recorder Tokens)

variable {α : Type}

-----------------------------------------------------------------------------------------
-- The envelope of a response that is received
-----------------------------------------------------------------------------------------

/-- What a transfer has recorded of a response with this head, to this extent. The envelope is the
one of the head, unless the length was limited; then it may be a first part of that.
-/
def Transfer.IsLaidOut (transfer : Transfer α) (head : Http.ResponseHead) (extent : Extent)
    : Prop :=
  ∃ limits algorithm envelope body,
    transfer.recorder.Holds limits algorithm envelope body
    ∧ envelope <+: head.envelope
    ∧ (extent ≠ .untilLimit → envelope = head.envelope)

section Transfer

variable [Tokens α] {config : FetchConfig} {launch : Launch} {cancelAt : Option Instant}
  {recorder : Recorder α} {head : Http.ResponseHead} {body : Recording.Stream} {now : Instant}
  {extent : Extent}

/-- Only a write that the cap on length has cut leaves less than the envelope of a response that is
recorded at all, by cases of how that write ended.
-/
theorem Transfer.isLaidOut_receive {limits : Recording.Limits}
    {algorithm : Option DigestAlgorithm} (holds : recorder.Holds limits algorithm [] [])
    (isOpen : recorder.isOpen = true)
    (ending
      : (receive config launch cancelAt recorder head body now).ending = .recorded head extent)
    : (receive config launch cancelAt recorder head body now).IsLaidOut head extent := by
  have enveloped := holds.recordEnvelope isOpen head.envelope
  have partly := recorder.accepted_isPrefix head.envelope
  rw [List.nil_append] at enveloped
  unfold receive at ending ⊢
  split at ending
  · rename_i recorded _ same
    cases ending
    rw [same] at enveloped
    exact ⟨limits, algorithm, _, [], enveloped.close, partly,
      fun unlimited => absurd rfl unlimited⟩
  · cases ending
  · rename_i recorded same
    have written : (recorder.write head.envelope false).2 = .ok () := congrArg (·.2) same
    rw [same, Recorder.accepted_of_write_ok written] at enveloped
    split
    · exact ⟨limits, algorithm, _, [], enveloped.close, List.prefix_rfl, fun _ => rfl⟩
    · obtain ⟨kept, reads⟩ :=
        Recorder.read_extends enveloped now cancelAt (Http.declaredLength? head.headers) body
      exact ⟨limits, algorithm, _, [] ++ kept, reads.holds.close, List.prefix_rfl, fun _ => rfl⟩

/-- The transfer of any request that ends with a recorded response has laid it out. -/
theorem Transfer.isLaidOut_run {reply : Option Reply}
    (ending : (run config launch cancelAt reply : Transfer α).ending = .recorded head extent)
    : (run config launch cancelAt reply : Transfer α).IsLaidOut head extent := by
  have isOf := ending_run_isOf (α := α) config launch cancelAt reply
  have nothing := Recorder.holds_start (α := α) launch.started launch.limits config.digest?
  rw [ending] at isOf
  obtain ⟨⟨other, body⟩, obtained, same⟩ := Option.map_eq_some_iff.mp isOf
  cases same
  obtain ⟨now, received⟩ : ∃ now, (run config launch cancelAt reply : Transfer α) = _ :=
    run_of_obtained obtained
  rw [received] at ending ⊢
  exact isLaidOut_receive nothing rfl ending

end Transfer

-----------------------------------------------------------------------------------------
-- The recording of an attempt
-----------------------------------------------------------------------------------------

/-- An attempt has recorded a response with this head. Its sizes count the bytes that are replayed,
and those before the body are the envelope, or a first part of it if the length was limited.
-/
structure Execution.IsLaidOut (execution : Execution α) (head : Http.ResponseHead) : Prop where
  size : execution.recorder.size = execution.recorder.replay.1.length
  within : execution.recorder.contentBegin ≤ execution.recorder.replay.1.length
  partly
    : execution.recorder.replay.1.take execution.recorder.contentBegin <+: head.envelope
  whole
    : execution.state ≠ .lengthTruncated
      → execution.recorder.replay.1.take execution.recorder.contentBegin = head.envelope

theorem Transfer.IsLaidOut.execution {transfer : Transfer α} {head : Http.ResponseHead}
    {extent : Extent} {execution : Execution α} (laidOut : transfer.IsLaidOut head extent)
    (recorder : execution.recorder = transfer.recorder) (state : execution.state = extent.state)
    : execution.IsLaidOut head := by
  obtain ⟨limits, algorithm, envelope, body, holds, partly, whole⟩ := laidOut
  have layout : execution.recorder.Holds limits algorithm envelope body := recorder ▸ holds
  have first
      : execution.recorder.replay.1.take execution.recorder.contentBegin = envelope := by
    rw [layout.replay_fst, layout.contentBegin, List.take_left]
  refine ⟨?_, ?_, first ▸ partly, ?_⟩
  · rw [layout.size, layout.replay_fst, List.length_append]
  · rw [layout.contentBegin, layout.replay_fst, List.length_append]
    exact Nat.le_add_right _ _
  · intro unlimited
    refine first.trans (whole ?_)
    rintro rfl
    exact unlimited state

/-- Landing a response leaves the records of its item. -/
theorem records_landRecorded {fetcher : Fetcher} {launch : Launch} {recorder : Recorder α}
    {head : Http.ResponseHead} {extent : Extent} {wall : Timestamp} {shared : Shared}
    (undecided : launch.item.status = none)
    : (fetcher.landRecorded launch recorder head extent wall shared).1.records
      = launch.item.records := by
  obtain ⟨_, _, _, _, _, shape⟩ :=
    landRecorded_shape fetcher launch recorder head extent wall shared
  rw [shape, remarked_eq undecided]

/-- An attempt on a fresh item that ends with the status of a response has recorded that response to
some extent, and has left no record on the item.
-/
theorem recorded_of_execute? [Tokens α] {fetcher : Fetcher} {item : CrawlItem} {shared : Shared}
    {replies : List Reply} {wall : Timestamp} {now : Instant} {cancelAt : Option Instant}
    {execution : Execution α} (fresh : item.IsFresh)
    (executed
      : fetcher.execute? item shared replies wall now cancelAt = some execution)
    (answered : (execution.item.status.bind FetchStatus.http?).isSome)
    : ∃ head body, ∃ extent : Extent,
        obtained? now cancelAt replies.head? = some (head, body)
        ∧ execution.state = extent.state
        ∧ execution.IsRecorded item head extent.remark?.toList
        ∧ execution.item.records = .empty
        ∧ execution.IsLaidOut head := by
  obtain ⟨landed, recorder, envelope⟩ := landed_of_execute? executed
  obtain ⟨underWay, undecided⟩ := fresh.isUnderWay_setBegun wall
  have isOf :=
    Transfer.ending_run_isOf (α := α) fetcher.config
      (fetcher.launch shared.servers item wall now) cancelAt replies.head?
  obtain ⟨head, extent, ending, made, state⟩ := recorded_of_land? landed answered
  rw [ending] at isOf
  obtain ⟨⟨other, body⟩, obtained, same⟩ := Option.map_eq_some_iff.mp isOf
  obtain rfl : other = head := same
  rw [← recorder] at made
  obtain ⟨-, isRecorded⟩ :=
    isRecorded_of_landRecorded underWay undecided envelope state (congrArg (·.1) made).symm
  have unarchived : execution.item.records = item.reset.records := by
    have made := congrArg (·.1.records) made
    rw [fresh, ← made]
    exact records_landRecorded undecided
  exact ⟨other, body, extent, obtained, state, isRecorded, unarchived,
    (Transfer.isLaidOut_run ending).execution recorder state⟩

end WebHarvest.Fetch
