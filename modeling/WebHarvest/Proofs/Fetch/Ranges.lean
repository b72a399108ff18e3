import WebHarvest.Proofs.Fetch.Validators
import WebHarvest.Proofs.Text.Decimal

/-! The numbers of an attempt. What is configured, overridden or remembered may be any number of
sixty-four bits. The limits, the range that is asked for and the sizes of what is recorded do not
leave these bits; the deadline and the size of content that has not changed may.
-/

namespace WebHarvest.Fetch

open Calendar (Timestamp)
open Clock (Instant)
open Recording (Recorder Stream Tokens)

-----------------------------------------------------------------------------------------
-- The limits
-----------------------------------------------------------------------------------------

namespace FetchConfig

variable (config : FetchConfig) (overrides : FetchOverrides)

/-- The rate in bytes is that in kilobytes, or the greatest one if that is beyond it. -/
theorem bytesPerSecond_limits
    : let kilobytes := overrides.maxRate.getD config.maxRate
      (config.limits overrides).bytesPerSecond ≤ maxBytesPerSecond
      ∧ (kilobytes * 1024 ≤ maxBytesPerSecond
        → (config.limits overrides).bytesPerSecond = kilobytes * 1024) :=
  ⟨Nat.min_le_right _ _, Nat.min_eq_left⟩

/-- There is no timeout only where it is set to zero seconds. -/
theorem timeout_limits_eq_none_iff
    : (config.limits overrides).timeout = none
      ↔ overrides.timeoutSeconds.getD config.timeoutSeconds = 0 := by
  unfold limits
  dsimp only
  split <;> simp <;> omega

end FetchConfig

/-- An instant that lies whole seconds ahead can be represented if its seconds can. -/
theorem isRepresentable_add_seconds_iff {now : Instant} {seconds : Nat}
    : Clock.isRepresentable (now + seconds * Clock.second) = true
      ↔ now / Clock.second + seconds < Nat.pow 2 63 := by
  rw [Clock.isRepresentable, Nat.add_mul_div_right _ _ (by decide), decide_eq_true_eq]

/-- The deadline for an item cannot be represented if its seconds cannot. -/
theorem Fetcher.isOverdue_launch_iff {fetcher : Fetcher} {servers : Access.ServerCache}
    {item : CrawlItem} {wall : Timestamp} {now : Instant}
    : (fetcher.launch servers item wall now).IsOverdue
      ↔ let seconds := item.overrides.timeoutSeconds.getD fetcher.config.timeoutSeconds
        0 < seconds ∧ Nat.pow 2 63 ≤ now / Clock.second + seconds := by
  simp only [Launch.IsOverdue, Fetcher.launch, FetchConfig.limits, CrawlItem.setBegun]
  by_cases bounded : 0 < item.overrides.timeoutSeconds.getD fetcher.config.timeoutSeconds
  · simp only [bounded, if_true, Option.mem_some_iff, exists_eq_left', true_and]
    rw [← Bool.not_eq_true, isRepresentable_add_seconds_iff, Nat.not_lt]
  · simp [bounded]

-----------------------------------------------------------------------------------------
-- The range that is asked for
-----------------------------------------------------------------------------------------

section Request

variable (fetcher : Fetcher) (servers : Access.ServerCache) (item : CrawlItem)
  {limits : Recording.Limits} {last : Nat}

theorem headerValue?_range (last : Nat)
    : Http.headerValue? ("bytes=0-" ++ toString last)
      = some (Text.utf8 ("bytes=0-" ++ toString last)) := by
  apply Http.headerValue?_of_printable
  intro c member
  rw [String.toList_append, Text.Decimal.toList_toString] at member
  rcases List.mem_append.mp member with label | digit
  · have plain : "bytes=0-".toList.all fun c => 0x20 ≤ c.toNat && c.toNat < 0x7f := by
      decide
    simpa using List.all_eq_true.mp plain c label
  · have digit := Text.Decimal.areDigits_toDigits last c digit
    simp only [Text.isAsciiDigit, Bool.and_eq_true, decide_eq_true_eq, Char.le_def] at digit
    obtain ⟨least, most⟩ := digit
    rw [UInt32.le_iff_toNat_le] at least most
    exact ⟨Nat.le_trans (by decide) least, Nat.lt_of_le_of_lt most (by decide)⟩

/-- Where a range is asked for under a cap on length, it ends just below the cap. -/
theorem values_request_range (asked : fetcher.config.sendRange = true)
    (capped : limits.hardMax = last + 1)
    : (fetcher.request servers item limits).1.headers.values "range"
      = [Text.utf8 ("bytes=0-" ++ toString last)] := by
  have range : Fetcher.rangeText? limits.hardMax = some ("bytes=0-" ++ toString last) := by
    rw [Fetcher.rangeText?, capped, if_pos (Nat.succ_pos last), Nat.add_sub_cancel]
  -- Only the validators and the authorization are set behind the range.
  rw [values_request_of_ne fetcher servers limits (by decide), Fetcher.openFields,
    FetchConfig.addValidators, values_insertText_of_ne (by decide : "range" ≠ "if-none-match"),
    values_insertText_of_ne (by decide : "range" ≠ "if-modified-since")]
  simp only [asked, if_true, range, insertText, Option.bind_some, headerValue?_range,
    Http.Headers.values_insert]

end Request

-----------------------------------------------------------------------------------------
-- The sizes of what is recorded
-----------------------------------------------------------------------------------------

/-- The bytes of a response that come in, if one comes. -/
def receivedLength (response? : Option (Http.ResponseHead × Stream)) : Nat :=
  (response?.elim [] (·.1.envelope)).length + (response?.elim [] (·.2.body)).length

/-- An attempt that ended like this has recorded a response to some extent. -/
def FetchState.hasRecording : FetchState → Bool
  | connectLost => false
  | connectFailed => false
  | _ => true

theorem hasRecording_state (extent : Extent) : extent.state.hasRecording = true := by
  cases extent <;> rfl

/-- The size of content is its own and that of what is referred to, just if both together are in
range.
-/
theorem contentSizeOf_eq_iff {size : Nat} {reference : Option Nat}
    : contentSizeOf size reference = size + reference.getD 0
      ↔ ∀ length ∈ reference, size + length < sizeModulus := by
  cases reference with
  | none => simp [contentSizeOf]
  | some length =>
      have positive : 0 < sizeModulus := by decide
      constructor
      · rintro same _ ⟨⟩
        exact same ▸ Nat.mod_lt _ positive
      · intro inRange
        exact Nat.mod_eq_of_lt (inRange length rfl)

variable {α : Type}

/-- The numbers that an attempt on an item leaves, of whose response so many bytes came in. -/
structure Execution.IsMeasured (execution : Execution α) (before : CrawlItem)
    (limits : Recording.Limits) (received : Nat)
    : Prop where
  received : execution.recorder.size ≤ received
  capped : 0 < limits.hardMax → execution.recorder.size ≤ limits.hardMax
  body : execution.recorder.contentBegin ≤ execution.recorder.size
  recorded
    : execution.state.hasRecording = true
      → execution.item.recorded
        = some ⟨execution.recorder.size, execution.recorder.contentBegin,
            execution.envelope.length⟩
  contentSize
    : execution.item.contentSize
      = if execution.state.hasRecording then
          contentSizeOf execution.recorder.size (referenceOf before execution.item.status)
        else before.contentSize

theorem contentSize_giveUp (status : FetchStatus) (why : FetchError) (wall : Timestamp)
    (item : CrawlItem)
    : (giveUp status why wall item).contentSize = item.contentSize := by
  unfold giveUp CrawlItem.setStatus
  split <;> rfl

theorem contentSize_observeHead (head : Http.ResponseHead) (item : CrawlItem)
    : (observeHead head item).contentSize = item.contentSize := by
  unfold observeHead CrawlItem.setStatus
  split <;> rfl

theorem snapshots_remarked (head : Http.ResponseHead) (extent : Extent) (item : CrawlItem)
    : (remarked head extent item).snapshots = item.snapshots := by
  unfold remarked observeHead CrawlItem.setStatus
  split <;> cases extent <;> rfl

/-- An item has the status and the sizes of another one. -/
structure HasSizesOf (later item : CrawlItem) : Prop where
  status : later.status = item.status
  recorded : later.recorded = item.recorded
  contentSize : later.contentSize = item.contentSize

/-- Nothing that comes of a response after its sizes are noted changes them. -/
theorem hasSizesOf_landRecorded (fetcher : Fetcher) (launch : Launch) (recorder : Recorder α)
    (head : Http.ResponseHead) (extent : Extent) (wall : Timestamp) (shared : Shared)
    : HasSizesOf (fetcher.landRecorded launch recorder head extent wall shared).1
        (setSizes recorder launch.request.envelope.length (remarked head extent launch.item)) := by
  let sized := setSizes recorder launch.request.envelope.length (remarked head extent launch.item)
  let digested := setContentDigest recorder.digest extent sized
  let settled := (fetcher.settleAccess head launch.presented digested shared).1
  have digest : HasSizesOf digested sized := by
    rw [show digested = _ from setContentDigest_eq _ _ _]
    exact ⟨rfl, rfl, rfl⟩
  have access : HasSizesOf settled digested := by
    obtain ⟨credentials, challenges, same⟩ :
        ∃ credentials challenges, settled = { digested with credentials, challenges } :=
      settleAccess_shape fetcher head launch.presented digested shared
    rw [same]
    exact ⟨rfl, rfl, rfl⟩
  obtain ⟨snapshots, completed⟩ :=
    completion_shape head.status fetcher.config.snapshotsKept wall settled
  have landed
      : (fetcher.landRecorded launch recorder head extent wall shared).1
        = { settled with snapshots, completed := settled.completed.or (some wall) } :=
    completed
  rw [landed]
  exact {
    status := access.status.trans digest.status
    recorded := access.recorded.trans digest.recorded
    contentSize := access.contentSize.trans digest.contentSize
  }

/-- A response that is recorded leaves its sizes, whatever its item has had before. -/
theorem sizes_landRecorded {fetcher : Fetcher} {launch : Launch} {recorder : Recorder α}
    {head : Http.ResponseHead} {extent : Extent} {wall : Timestamp} {shared : Shared}
    {item : CrawlItem}
    (landed : (fetcher.landRecorded launch recorder head extent wall shared).1 = item)
    : item.recorded
        = some ⟨recorder.size, recorder.contentBegin, launch.request.envelope.length⟩
      ∧ item.contentSize = contentSizeOf recorder.size (referenceOf launch.item item.status) := by
  have sizes := hasSizesOf_landRecorded fetcher launch recorder head extent wall shared
  rw [landed, setSizes_eq] at sizes
  have latest
      : referenceOf (remarked head extent launch.item) item.status
        = referenceOf launch.item item.status := by
    simp only [referenceOf, latestReference?, CrawlItem.latest?, snapshots_remarked]
  refine ⟨sizes.recorded, ?_⟩
  rw [← latest, sizes.status]
  exact sizes.contentSize

/-- Every attempt is measured, whatever its item has had before, by cases of how the transfer ended.
-/
theorem isMeasured_of_execute? [Tokens α] {fetcher : Fetcher} {item : CrawlItem}
    {shared : Shared} {replies : List Reply} {wall : Timestamp} {now : Instant}
    {cancelAt : Option Instant} {execution : Execution α}
    (executed
      : fetcher.execute? item shared replies wall now cancelAt = some execution)
    : execution.IsMeasured item (fetcher.config.limits item.overrides)
        (receivedLength (obtained? now cancelAt replies.head?)) := by
  obtain ⟨landed, recorder, envelope⟩ := landed_of_execute? executed
  obtain ⟨-, first, rest, holds, envelopePart, bodyPart⟩ :=
    Transfer.isRecording_run (α := α) fetcher.config
      (fetcher.launch shared.servers item wall now) cancelAt replies.head?
  rw [← recorder] at holds
  have measured
      : execution.recorder.size ≤ receivedLength (obtained? now cancelAt replies.head?) :=
    holds.size ▸ Nat.add_le_add envelopePart.length_le bodyPart.length_le
  have capped : 0 < (fetcher.config.limits item.overrides).hardMax
      → execution.recorder.size ≤ (fetcher.config.limits item.overrides).hardMax := holds.capped
  have body : execution.recorder.contentBegin ≤ execution.recorder.size := by
    rw [holds.size, holds.contentBegin]
    exact Nat.le_add_right _ _
  -- An attempt that is given up keeps what its item has had before.
  obtain ⟨why, -, made, -, state⟩ | ⟨head, why, -, made, -, state⟩
      | ⟨head, extent, -, made, state⟩ := cases_of_land? landed
  · refine ⟨measured, capped, body, by simp [state, FetchState.hasRecording], ?_⟩
    rw [made, contentSize_giveUp, state]
    rfl
  · refine ⟨measured, capped, body, by simp [state, FetchState.hasRecording], ?_⟩
    rw [made, contentSize_giveUp, contentSize_observeHead, state]
    rfl
  · rw [← recorder] at made
    obtain ⟨recorded, contentSize⟩ := sizes_landRecorded (congrArg (·.1) made)
    refine ⟨measured, capped, body, fun _ => envelope ▸ recorded, ?_⟩
    rw [state, hasRecording_state, if_pos rfl]
    exact contentSize

-----------------------------------------------------------------------------------------
-- The ranges of an attempt
-----------------------------------------------------------------------------------------

/-- Nothing comes of an attempt if its transfer gets stuck. -/
theorem execute?_eq_none_iff [Tokens α] {fetcher : Fetcher} {item : CrawlItem} {shared : Shared}
    {replies : List Reply} {wall : Timestamp} {now : Instant} {cancelAt : Option Instant}
    : (fetcher.execute? item shared replies wall now cancelAt : Option (Execution α)) = none
      ↔ ∃ why,
          (Transfer.run fetcher.config (fetcher.launch shared.servers item wall now) cancelAt
              replies.head? : Transfer α).ending
          = .stuck why := by
  unfold Fetcher.execute? Fetcher.land?
  dsimp only
  split <;> simp [*]

/-- The ranges of the numbers of an attempt, whatever comes of it. The rate is exact or the greatest
one, and the range that is asked for ends below the cap. The deadline is computed when a body is
read, and then nothing comes of the attempt if the seconds of the deadline leave sixty-three bits;
else nothing comes of it only where a body stalls for good. The recorded sizes are within what came
in and within the cap. The size of the content is exact, unless what was recorded and what is
referred to leave sixty-four bits together.
-/
structure Fetcher.HasRanges (α : Type) [Tokens α] (fetcher : Fetcher) (item : CrawlItem)
    (shared : Shared) (replies : List Reply) (wall : Timestamp) (now : Instant)
    (cancelAt : Option Instant)
    : Prop where
  rate
    : let kilobytes := item.overrides.maxRate.getD fetcher.config.maxRate
      (fetcher.config.limits item.overrides).bytesPerSecond ≤ FetchConfig.maxBytesPerSecond
      ∧ (kilobytes * 1024 ≤ FetchConfig.maxBytesPerSecond
        → (fetcher.config.limits item.overrides).bytesPerSecond = kilobytes * 1024)
  range
    : fetcher.config.sendRange = true
      → ∀ last,
        (fetcher.config.limits item.overrides).hardMax = last + 1
        → (fetcher.launch shared.servers item wall now).request.headers.values "range"
          = [Text.utf8 ("bytes=0-" ++ toString last)]
  deadline
    : let seconds := item.overrides.timeoutSeconds.getD fetcher.config.timeoutSeconds
      0 < seconds
      → Nat.pow 2 63 ≤ now / Clock.second + seconds
      → ∀ head body,
        obtained? now cancelAt replies.head? = some (head, body)
        → (fetcher.launch shared.servers item wall now).Reads fetcher.config head
        → (fetcher.execute? item shared replies wall now cancelAt : Option (Execution α)) = none
  unended
    : (fetcher.execute? item shared replies wall now cancelAt : Option (Execution α)) = none
      → let seconds := item.overrides.timeoutSeconds.getD fetcher.config.timeoutSeconds
        ∃ head body,
          obtained? now cancelAt replies.head? = some (head, body)
          ∧ (fetcher.launch shared.servers item wall now).Reads fetcher.config head
          ∧ ((0 < seconds ∧ Nat.pow 2 63 ≤ now / Clock.second + seconds)
            ∨ (seconds = 0 ∧ cancelAt = none ∧ body.stalls = true))
  sizes
    : ∀ execution : Execution α,
        fetcher.execute? item shared replies wall now cancelAt = some execution
        → execution.IsMeasured item (fetcher.config.limits item.overrides)
            (receivedLength (obtained? now cancelAt replies.head?))
  contentSize
    : ∀ execution : Execution α,
        fetcher.execute? item shared replies wall now cancelAt = some execution
        → execution.state.hasRecording = true
        → let reference := referenceOf item execution.item.status
          execution.item.contentSize = execution.recorder.size + reference.getD 0
          ↔ ∀ length ∈ reference, execution.recorder.size + length < sizeModulus

theorem Fetcher.hasRanges (α : Type) [Tokens α] (fetcher : Fetcher) (item : CrawlItem)
    (shared : Shared) (replies : List Reply) (wall : Timestamp) (now : Instant)
    (cancelAt : Option Instant)
    : fetcher.HasRanges α item shared replies wall now cancelAt where
  rate := FetchConfig.bytesPerSecond_limits _ _
  range asked _ capped := values_request_range _ _ _ asked capped
  deadline positive overdue head body obtained reads :=
    execute?_eq_none_iff.mpr ⟨_, Transfer.ending_run_of_isOverdue
      (Fetcher.isOverdue_launch_iff.mpr ⟨positive, overdue⟩) obtained reads⟩
  unended nothing := by
    intro seconds
    obtain ⟨why, stuck⟩ := execute?_eq_none_iff.mp nothing
    obtain ⟨head, body, obtained, reads, ⟨-, overdue⟩ | ⟨-, stalls, alone, unbounded⟩⟩ :=
      Transfer.run_of_stuck stuck
    · exact ⟨head, body, obtained, reads, .inl (Fetcher.isOverdue_launch_iff.mp overdue)⟩
    · have unset : seconds = 0 := FetchConfig.timeout_limits_eq_none_iff _ _ |>.mp unbounded
      exact ⟨head, body, obtained, reads, .inr ⟨unset, alone, stalls⟩⟩
  sizes _ executed := isMeasured_of_execute? executed
  contentSize execution executed recorded := by
    intro reference
    rw [(isMeasured_of_execute? executed).contentSize, if_pos recorded]
    exact contentSizeOf_eq_iff

end WebHarvest.Fetch
