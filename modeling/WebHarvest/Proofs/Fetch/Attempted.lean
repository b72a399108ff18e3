import WebHarvest.Fetch.Execution

/-! What an attempt leaves on its item. Each part of landing changes certain fields only, so that
whatever the attempt, its item has a beginning, and a response only with a recording of it.
-/

namespace WebHarvest.Fetch

open Recording (Recorder Tokens)

-----------------------------------------------------------------------------------------
-- The fields that each part of landing changes
-----------------------------------------------------------------------------------------

/-- Noting sizes sets the layout of the recording and, besides, the two lengths only. -/
theorem setSizes_shape {α : Type} (recorder : Recorder α) (requestLength : Nat) (item : CrawlItem)
    : ∃ contentSize referenceLength,
        setSizes recorder requestLength item
        = { item with
            recorded := some ⟨recorder.size, recorder.contentBegin, requestLength⟩
            contentSize, referenceLength } := by
  unfold setSizes
  dsimp only
  split
  · exact ⟨_, _, rfl⟩
  · exact ⟨_, _, rfl⟩

/-- Noting the digest of the content changes the digest only, and only where there is none. -/
theorem setContentDigest_eq (digest : Option ContentDigest) (extent : Extent) (item : CrawlItem)
    : setContentDigest digest extent item
      = { item with
          digest := if extent = .envelopeOnly then item.digest else item.digest.or digest } := by
  unfold setContentDigest
  cases digest with
  | none => simp
  | some digest => by_cases unread : extent = .envelopeOnly <;> simp [unread, CrawlItem.setDigest]

/-- Settling access changes the item's credentials and challenges only, by cases of the status. -/
theorem settleAccess_shape (fetcher : Fetcher) (head : Http.ResponseHead) (presented : Bool)
    (item : CrawlItem) (shared : Shared)
    : ∃ credentials challenges,
        (fetcher.settleAccess head presented item shared).1
        = { item with credentials, challenges } := by
  unfold Fetcher.settleAccess
  split
  · unfold Fetcher.challenged
    dsimp only
    split
    · exact ⟨_, _, rfl⟩
    · split
      · exact ⟨_, _, rfl⟩
      · exact ⟨_, _, rfl⟩
  · split
    · exact ⟨_, _, rfl⟩
    · split
      · exact ⟨_, _, rfl⟩
      · exact ⟨_, _, rfl⟩

/-- Leaving a snapshot, or none, changes the snapshots only. -/
theorem recordSnapshot_shape (item : CrawlItem) (keep : Nat) (wall : Calendar.Timestamp)
    : ∃ snapshots, item.recordSnapshot keep wall = { item with snapshots } := by
  unfold CrawlItem.recordSnapshot
  split
  · exact ⟨_, rfl⟩
  · exact ⟨_, rfl⟩

/-- The end of an attempt changes the snapshots and the completion only. -/
theorem completion_shape (status keep : Nat) (wall : Calendar.Timestamp) (item : CrawlItem)
    : ∃ snapshots,
        (if Fetcher.leavesSnapshot status then item.recordSnapshot keep wall
          else item).setCompleted wall
        = { item with snapshots, completed := item.completed.or (some wall) } := by
  split
  · obtain ⟨snapshots, left⟩ := recordSnapshot_shape item keep wall
    exact ⟨snapshots, by rw [left]; rfl⟩
  · exact ⟨item.snapshots, rfl⟩

/-- The item after the head of a response, with the remark on how much was recorded. -/
def remarked (head : Http.ResponseHead) (extent : Extent) (item : CrawlItem) : CrawlItem :=
  extent.remark?.elim (observeHead head item) (observeHead head item).annotate

/-- The item of a recorded response: its head and the remark, the layout of the recording, the
digest unless the body was not read, and besides only what follows the recording.
-/
theorem landRecorded_shape {α : Type} (fetcher : Fetcher) (launch : Launch)
    (recorder : Recorder α) (head : Http.ResponseHead) (extent : Extent)
    (wall : Calendar.Timestamp) (shared : Shared)
    : ∃ contentSize referenceLength credentials challenges snapshots,
        (fetcher.landRecorded launch recorder head extent wall shared).1
        = { remarked head extent launch.item with
            recorded :=
              some ⟨recorder.size, recorder.contentBegin, launch.request.envelope.length⟩
            digest :=
              if extent = .envelopeOnly then (remarked head extent launch.item).digest
              else (remarked head extent launch.item).digest.or recorder.digest
            contentSize, referenceLength, credentials, challenges, snapshots
            completed := (remarked head extent launch.item).completed.or (some wall) } := by
  obtain ⟨contentSize, referenceLength, sized⟩ :=
    setSizes_shape recorder launch.request.envelope.length (remarked head extent launch.item)
  obtain ⟨credentials, challenges, settled⟩ := settleAccess_shape fetcher head launch.presented
    (setContentDigest recorder.digest extent
      (setSizes recorder launch.request.envelope.length (remarked head extent launch.item)))
    shared
  obtain ⟨snapshots, completed⟩ :=
    completion_shape head.status fetcher.config.snapshotsKept wall
      (fetcher.settleAccess head launch.presented
        (setContentDigest recorder.digest extent
          (setSizes recorder launch.request.envelope.length
            (remarked head extent launch.item))) shared).1
  refine ⟨contentSize, referenceLength, credentials, challenges, snapshots, ?_⟩
  apply Eq.trans completed
  rw [settled, setContentDigest_eq, sized]

-----------------------------------------------------------------------------------------
-- The item of an attempt
-----------------------------------------------------------------------------------------

/-- An item is what an attempt has made of another one, whatever the fetcher, what fetches share,
the replies, the time and the cancellation.
-/
def IsAttempted (start item : CrawlItem) : Prop :=
  ∃ (α : Type) (_ : Tokens α) (fetcher : Fetcher) (shared : Shared) (replies : List Reply)
      (wall : Calendar.Timestamp) (now : Clock.Instant) (cancelAt : Option Clock.Instant)
      (execution : Execution α),
    fetcher.execute? start shared replies wall now cancelAt = some execution
    ∧ execution.item = item

/-- What every attempt leaves: its beginning, and with a response the layout of the recording. -/
structure IsSettled (item : CrawlItem) : Prop where
  begun : item.begun.isSome
  recorded : (item.status.bind FetchStatus.http?).isSome → item.recorded.isSome

/-- Noting a status changes no other field of an item. -/
theorem exists_setStatus (item : CrawlItem) (status : FetchStatus)
    : ∃ noted, item.setStatus status = { item with status := noted } := by
  unfold CrawlItem.setStatus
  split
  · exact ⟨item.status, rfl⟩
  · exact ⟨_, rfl⟩

/-- A status that is noted changes neither the beginning nor the earlier capture. -/
theorem setStatus_fields (item : CrawlItem) (status : FetchStatus)
    : (item.setStatus status).begun = item.begun
      ∧ (item.setStatus status).earlierCapture = item.earlierCapture := by
  obtain ⟨noted, same⟩ := exists_setStatus item status
  rw [same]
  exact ⟨rfl, rfl⟩

/-- An attempt that was given up notes its failure, whatever was noted before, and changes neither
the beginning nor the earlier capture.
-/
theorem giveUp_fields (status : FetchStatus) (failure : status.http? = none) (why : FetchError)
    (wall : Calendar.Timestamp) (item : CrawlItem)
    : (giveUp status why wall item).status = some status
      ∧ (giveUp status why wall item).begun = item.begun
      ∧ (giveUp status why wall item).earlierCapture = item.earlierCapture := by
  refine ⟨?_, setStatus_fields (item.addFailure why.message) status⟩
  unfold giveUp CrawlItem.setStatus
  split
  · cases failure
  · rfl

/-- The head of a response and the remark change neither the beginning nor the earlier capture. -/
theorem remarked_fields (head : Http.ResponseHead) (extent : Extent) (item : CrawlItem)
    : (remarked head extent item).begun = item.begun
      ∧ (remarked head extent item).earlierCapture = item.earlierCapture := by
  cases extent <;> exact setStatus_fields _ _

/-- All that an attempt that is over can have left, by how its transfer ended: no response came, the
connection was lost after the head of one, or a response was recorded to some extent.
-/
theorem cases_of_land? {α : Type} {fetcher : Fetcher} {launch : Launch} {transfer : Transfer α}
    {wall : Calendar.Timestamp} {shared after : Shared} {item : CrawlItem} {state : FetchState}
    (landed : fetcher.land? launch transfer wall shared = some (item, after, state))
    : (∃ why,
        transfer.ending = .unanswered why
        ∧ item = giveUp .connectFailed (.connect why) wall launch.item
        ∧ after = shared
        ∧ state = .connectFailed)
      ∨ (∃ head why,
        transfer.ending = .lost head why
        ∧ item = giveUp .connectLost (.lost why.message) wall (observeHead head launch.item)
        ∧ after = shared
        ∧ state = .connectLost)
      ∨ (∃ head extent,
        transfer.ending = .recorded head extent
        ∧ fetcher.landRecorded launch transfer.recorder head extent wall shared = (item, after)
        ∧ state = extent.state) := by
  unfold Fetcher.land? at landed
  split at landed
  · rename_i why ending
    cases landed
    exact .inl ⟨why, ending, rfl, rfl, rfl⟩
  · rename_i head why ending
    cases landed
    exact .inr (.inl ⟨head, why, ending, rfl, rfl, rfl⟩)
  · rename_i head extent ending
    cases landed
    exact .inr (.inr ⟨head, extent, ending, rfl, rfl⟩)
  · cases landed

/-- An attempt that ends with the status of a response has recorded it: what was given up has the
status of its failure.
-/
theorem recorded_of_land? {α : Type} {fetcher : Fetcher} {launch : Launch}
    {transfer : Transfer α} {wall : Calendar.Timestamp} {shared after : Shared}
    {item : CrawlItem} {state : FetchState}
    (landed : fetcher.land? launch transfer wall shared = some (item, after, state))
    (answered : (item.status.bind FetchStatus.http?).isSome)
    : ∃ head extent,
        transfer.ending = .recorded head extent
        ∧ fetcher.landRecorded launch transfer.recorder head extent wall shared = (item, after)
        ∧ state = extent.state := by
  obtain ⟨why, -, rfl, -, -⟩ | ⟨head, why, -, rfl, -, -⟩ | recorded := cases_of_land? landed
  · obtain ⟨status, -⟩ :=
      giveUp_fields .connectFailed rfl (.connect why) wall launch.item
    simp [status, FetchStatus.http?] at answered
  · obtain ⟨status, -⟩ :=
      giveUp_fields .connectLost rfl (.lost why.message) wall (observeHead head launch.item)
    simp [status, FetchStatus.http?] at answered
  · exact recorded

/-- An attempt that is over leaves its item settled, by cases of how the transfer ended: given up,
it has no response; else the recording has its layout.
-/
theorem land?_settles {α : Type} {fetcher : Fetcher} {launch : Launch} {transfer : Transfer α}
    {wall : Calendar.Timestamp} {shared after : Shared} {item : CrawlItem} {state : FetchState}
    (begun : launch.item.begun.isSome)
    (landed : fetcher.land? launch transfer wall shared = some (item, after, state))
    : IsSettled item ∧ item.earlierCapture = launch.item.earlierCapture := by
  obtain ⟨why, -, rfl, -⟩ | ⟨head, why, -, rfl, -⟩ | ⟨head, extent, -, made, -⟩ :=
    cases_of_land? landed
  · obtain ⟨status, kept, earlier⟩ :=
      giveUp_fields .connectFailed rfl (.connect why) wall launch.item
    exact ⟨⟨kept ▸ begun, by simp [status, FetchStatus.http?]⟩, earlier⟩
  · obtain ⟨observed, unlooked⟩ := setStatus_fields launch.item (.http head.status)
    obtain ⟨status, kept, earlier⟩ :=
      giveUp_fields .connectLost rfl (.lost why.message) wall
        (observeHead head launch.item)
    exact ⟨⟨kept ▸ observed ▸ begun, by simp [status, FetchStatus.http?]⟩,
      earlier.trans unlooked⟩
  · have same : (fetcher.landRecorded launch transfer.recorder head extent wall shared).1 = item :=
      congrArg (·.1) made
    obtain ⟨observed, unlooked⟩ := remarked_fields head extent launch.item
    obtain ⟨_, _, _, _, _, shape⟩ :=
      landRecorded_shape fetcher launch transfer.recorder head extent wall shared
    rw [← same, shape]
    exact ⟨⟨observed ▸ begun, fun _ => rfl⟩, unlooked⟩

/-- An attempt that is over has landed on the item from its launch what its transfer brought. -/
theorem landed_of_execute? {α : Type} [Tokens α] {fetcher : Fetcher} {item : CrawlItem}
    {shared : Shared} {replies : List Reply} {wall : Calendar.Timestamp} {now : Clock.Instant}
    {cancelAt : Option Clock.Instant} {execution : Execution α}
    (executed
      : fetcher.execute? item shared replies wall now cancelAt = some execution)
    : let launch := fetcher.launch shared.servers item wall now
      let transfer : Transfer α := .run fetcher.config launch cancelAt replies.head?
      fetcher.land? launch transfer wall shared
        = some (execution.item, execution.shared, execution.state)
      ∧ execution.recorder = transfer.recorder
      ∧ execution.envelope = launch.request.envelope := by
  unfold Fetcher.execute? at executed
  simp only [Option.bind_eq_bind, Option.bind_eq_some_iff] at executed
  obtain ⟨⟨later, after, state⟩, landed, rest⟩ := executed
  cases rest
  exact ⟨landed, rfl, rfl⟩

/-- Every attempt leaves its item settled, and with the earlier capture that it came with. -/
theorem IsAttempted.settles {start item : CrawlItem} (attempted : IsAttempted start item)
    : IsSettled item ∧ item.earlierCapture = start.earlierCapture := by
  obtain ⟨α, _, fetcher, shared, replies, wall, now, cancelAt, execution, executed, rfl⟩ :=
    attempted
  obtain ⟨landed, -⟩ := landed_of_execute? executed
  have begun : (start.setBegun wall).begun.isSome := by
    simp [CrawlItem.setBegun]
  exact land?_settles begun landed

-----------------------------------------------------------------------------------------
-- Digests and what they are of
-----------------------------------------------------------------------------------------

/-- A digest on an item comes with the layout of a recording. -/
def IsMeasured (item : CrawlItem) : Prop :=
  item.digest.isSome → item.recorded.isSome

theorem isMeasured_new (url : Url) : IsMeasured (.new url) :=
  fun digested => absurd digested (by simp [CrawlItem.new])

theorem isMeasured_setStatus {item : CrawlItem} (measured : IsMeasured item)
    (status : FetchStatus)
    : IsMeasured (item.setStatus status) := by
  obtain ⟨noted, same⟩ := exists_setStatus item status
  rw [same]
  exact measured

theorem isMeasured_giveUp {item : CrawlItem} (measured : IsMeasured item) (status : FetchStatus)
    (why : FetchError) (wall : Calendar.Timestamp)
    : IsMeasured (giveUp status why wall item) := by
  have noted : IsMeasured (item.addFailure why.message) := measured
  exact isMeasured_setStatus noted status

/-- What was given up has no digest that it did not come with, and what was recorded has a layout.
-/
theorem land?_measures {α : Type} {fetcher : Fetcher} {launch : Launch} {transfer : Transfer α}
    {wall : Calendar.Timestamp} {shared after : Shared} {item : CrawlItem} {state : FetchState}
    (measured : IsMeasured launch.item)
    (landed : fetcher.land? launch transfer wall shared = some (item, after, state))
    : IsMeasured item := by
  obtain ⟨why, -, rfl, -⟩ | ⟨head, why, -, rfl, -⟩ | ⟨head, extent, -, made, -⟩ :=
    cases_of_land? landed
  · exact isMeasured_giveUp measured _ _ wall
  · have observed : IsMeasured (observeHead head launch.item) :=
      isMeasured_setStatus measured (.http head.status)
    exact isMeasured_giveUp observed _ _ wall
  · have same : (fetcher.landRecorded launch transfer.recorder head extent wall shared).1 = item :=
      congrArg (·.1) made
    obtain ⟨_, _, _, _, _, shape⟩ :=
      landRecorded_shape fetcher launch transfer.recorder head extent wall shared
    rw [← same, shape]
    exact fun _ => rfl

/-- Every attempt leaves a digest only with a recording. -/
theorem IsAttempted.isMeasured {start item : CrawlItem} (attempted : IsAttempted start item)
    (measured : IsMeasured start)
    : IsMeasured item := by
  obtain ⟨α, _, fetcher, shared, replies, wall, now, cancelAt, execution, executed, rfl⟩ :=
    attempted
  obtain ⟨landed, -⟩ := landed_of_execute? executed
  have launched : IsMeasured (fetcher.launch shared.servers start wall now).item := measured
  exact land?_measures launched landed

end WebHarvest.Fetch
