import WebHarvest.Proofs.Archive.Completeness
import WebHarvest.Proofs.Fetch.Layout

/-! Records against the bytes that were recorded. Whatever an item is found to be, and however often
it is archived, its principal record tells of a first part of the recorded bytes, and the record of
the request, if there is to be one, belongs to the principal record of the latest time.
-/

namespace WebHarvest.Archive

open Calendar (Timestamp)
open Clock (Instant)
open Recording (Tokens)

-----------------------------------------------------------------------------------------
-- The records of an item that is archived again and again
-----------------------------------------------------------------------------------------

namespace RecordSet

/-- The principal record, and behind it the one of the request if requests get records. -/
def arranged (policy : Policy) (principal request : ArchiveRecord) : RecordSet :=
  ⟨(.principal, principal) :: if policy.requestRecords then [(.request, request)] else []⟩

/-- Records that were left under one policy, any number of times. -/
def IsArranged (records : RecordSet) (policy : Policy) : Prop :=
  records = .empty ∨ ∃ principal request, records = arranged policy principal request

/-- Both records are put in the places of those before. -/
theorem IsArranged.insert {records : RecordSet} {policy : Policy}
    (isArranged : records.IsArranged policy) (principal request : ArchiveRecord)
    : (if policy.requestRecords then
          (records.insert .principal principal).insert .request request
        else records.insert .principal principal)
      = arranged policy principal request := by
  rcases isArranged with rfl | ⟨_, _, rfl⟩
  · cases wanted : policy.requestRecords <;> simp [arranged, wanted, empty, RecordSet.insert, put]
  · cases wanted : policy.requestRecords <;> simp [arranged, wanted, RecordSet.insert, put]

end RecordSet

/-- What an item for which an earlier capture has been looked up becomes, and its principal record.
-/
def principalOf (item : CrawlItem) (wall : Timestamp) (id : String) : Decision × ArchiveRecord :=
  (revisitKind? item).elim (.response, responseRecord item wall id) fun (kind, entry) =>
    (.revisit kind, recordOf item wall id entry)

/-- The record of the request is told from the item and the identifier of the principal record. -/
theorem archiveRequest_insert (policy : Policy) {item : CrawlItem} (wall : Timestamp)
    (ids : IdSource) (isArranged : item.records.IsArranged policy) (principal : ArchiveRecord)
    : (archiveRequest policy
          { item with records := item.records.insert .principal principal } wall ids).1
      = { item with
          records :=
            .arranged policy principal (requestRecord item principal.id wall ids.first) } := by
  rw [← isArranged.insert]
  unfold archiveRequest
  rw [RecordSet.principal?_insert_principal]
  cases policy.requestRecords with
  | true => rfl
  | false => rfl

/-- Deciding on an item leaves its principal record and, if it is wanted, that of its request, by
cases of what the item is found to be.
-/
theorem conclude_arranged (policy : Policy) {item : CrawlItem} (wall : Timestamp)
    (archiving : Archiving) (isArranged : item.records.IsArranged policy)
    : ∃ id,
        (conclude policy item wall archiving).1
          = (principalOf item wall archiving.ids.first).1
        ∧ (conclude policy item wall archiving).2.1.records
          = .arranged policy (principalOf item wall archiving.ids.first).2
              (requestRecord item (principalOf item wall archiving.ids.first).2.id wall id) := by
  let drawn := { archiving.ids with next := archiving.ids.next + 1 }
  refine ⟨drawn.first, ?_⟩
  unfold conclude selectRevisit principalOf
  cases revisit : revisitKind? item with
  | none =>
      have requested :=
        archiveRequest_insert policy wall drawn isArranged
          (responseRecord item wall archiving.ids.first)
      exact ⟨rfl, congrArg CrawlItem.records requested⟩
  | some found =>
      obtain ⟨kind, entry⟩ := found
      have remarked : (item.annotate kind.remark).records.IsArranged policy := isArranged
      have requested :=
        archiveRequest_insert policy wall drawn remarked
          (recordOf item wall archiving.ids.first entry)
      exact ⟨rfl, congrArg CrawlItem.records requested⟩

namespace Visit

/-- A visit under a policy leaves its records on an item with a recorded response. -/
theorem apply_arranged (visit : Visit) {item : CrawlItem} (archivable : isArchivable item = true)
    (isArranged : item.records.IsArranged visit.policy)
    : ∃ id,
        let loaded := item.loadEarlier visit.policy.keyByLength visit.archiving.history
        let found := principalOf loaded visit.wall visit.archiving.ids.first
        (visit.apply item).1 = found.1
        ∧ (visit.apply item).2.1.records
          = .arranged visit.policy found.2
              (requestRecord loaded found.2.id visit.wall id) := by
  have loaded
      : (item.loadEarlier visit.policy.keyByLength visit.archiving.history).records
        = item.records := by
    unfold CrawlItem.loadEarlier
    split
    · rfl
    · rfl
  unfold apply process
  rw [archivable]
  exact conclude_arranged visit.policy visit.wall visit.archiving (loaded ▸ isArranged)

/-- So do any number of visits under one policy, by induction on the visits. -/
theorem isArranged_applyAll {policy : Policy} (visits : List Visit) {item : CrawlItem}
    (samePolicy : ∀ visit ∈ visits, visit.policy = policy)
    (archivable : isArchivable item = true) (isArranged : item.records.IsArranged policy)
    : (applyAll visits item).records.IsArranged policy := by
  induction visits generalizing item with
  | nil => exact isArranged
  | cons visit rest ih =>
      obtain ⟨same, others⟩ := List.forall_mem_cons.mp samePolicy
      obtain ⟨id, -, records⟩ := visit.apply_arranged archivable (same ▸ isArranged)
      apply ih others
      · exact (visit.archivedFrom_apply item).isArchivable.trans archivable
      · exact .inr ⟨_, _, same ▸ records⟩

end Visit

-----------------------------------------------------------------------------------------
-- What the records tell of the recorded bytes
-----------------------------------------------------------------------------------------

/-- The word for what a response was cut by, if its state says that it was. -/
def cutBy? : Fetch.FetchState → Option String
  | .lengthTruncated => some "length"
  | .timedOutTruncated => some "time"
  | _ => none

variable {α : Type}

/-- What every record tells of an item: its URL, when it was fetched, and that the length of its
content is enforced if the content may be less than what was recorded.
-/
structure ArchiveRecord.IsAbout (record : ArchiveRecord) (item : CrawlItem) : Prop where
  url : record.url = item.url.text
  date : item.begun.map (·.warcDate) = some record.date
  enforced : record.enforceLength = true ↔ record.type = .revisit ∨ record.type = .request

/-- A principal record after a decision fits the bytes that an attempt has recorded of a response
with this head: it holds all of them, unless their body is known already; then it holds just the
envelope, which was recorded whole.
-/
inductive ArchiveRecord.Fits (record : ArchiveRecord) (execution : Fetch.Execution α)
    (head : Http.ResponseHead)
    : Decision → Prop
  | response (type : record.type = .response)
    (length : record.contentLength = execution.recorder.replay.1.length)
    (truncated : record.fields.get? "WARC-Truncated" = cutBy? execution.state)
    : record.Fits execution head .response
  | notModified (type : record.type = .revisit)
    (profile
      : record.fields.get? "WARC-Profile"
        = some "http://netpreserve.org/warc/1.0/revisit/server-not-modified")
    (length : record.contentLength = execution.recorder.replay.1.length)
    : record.Fits execution head (.revisit .notModified)
  | identicalDigest (type : record.type = .revisit)
    (profile
      : record.fields.get? "WARC-Profile"
        = some "http://netpreserve.org/warc/1.0/revisit/identical-payload-digest")
    (length : record.contentLength = execution.recorder.contentBegin)
    (envelope : execution.recorder.replay.1.take execution.recorder.contentBegin = head.envelope)
    : record.Fits execution head (.revisit .identicalDigest)

/-- The record of the request that was sent belongs to a principal record. -/
structure ArchiveRecord.Accompanies (request principal : ArchiveRecord)
    (execution : Fetch.Execution α)
    : Prop where
  type : request.type = .request
  length : request.contentLength = execution.envelope.length
  concurrent : request.fields.get? "WARC-Concurrent-To" = some ("<" ++ principal.id ++ ">")

/-- No principal record goes beyond what was recorded. -/
theorem ArchiveRecord.Fits.within {record : ArchiveRecord} {execution : Fetch.Execution α}
    {head : Http.ResponseHead} {decision : Decision} (fits : record.Fits execution head decision)
    (laidOut : execution.IsLaidOut head)
    : record.contentLength ≤ execution.recorder.replay.1.length := by
  cases fits with
  | response type length truncated => exact Nat.le_of_eq length
  | notModified type profile length => exact Nat.le_of_eq length
  | identicalDigest type profile length envelope => exact length ▸ laidOut.within

/-- A revisit because nothing has changed has no earlier capture. -/
theorem entry_of_notModified {item : CrawlItem} {entry : Option CaptureEntry}
    (revisit : revisitKind? item = some (.notModified, entry))
    : entry = none := by
  unfold revisitKind? at revisit
  split at revisit
  · cases revisit
    rfl
  · split at revisit
    · split at revisit
      · cases revisit
      · cases revisit
    · cases revisit

/-- The profile comes first, whatever the response tells besides. -/
theorem profile_notModifiedFields (item : CrawlItem)
    : (notModifiedFields item).get? "WARC-Profile"
      = some "http://netpreserve.org/warc/1.0/revisit/server-not-modified" := by
  unfold notModifiedFields NamedFields.addSome
  dsimp only
  split
  · split
    · rfl
    · rfl
  · split
    · rfl
    · rfl

section Item

variable {execution : Fetch.Execution α} {before item : CrawlItem} {head : Http.ResponseHead}
  {extent : Fetch.Extent}

/-- The fields of a response record say what has cut the recording, by cases of its extent. -/
theorem truncationFields_of_recorded (archived : ArchivedFrom execution.item item)
    (recorded : execution.IsRecorded before head extent.remark?.toList)
    (state : execution.state = extent.state)
    : (truncationFields item).get? "WARC-Truncated" = cutBy? execution.state := by
  have long := archived.remarks Remark.lengthTruncated (by decide) (by decide)
  have slow := archived.remarks Remark.timeTruncated (by decide) (by decide)
  rw [CrawlItem.hasRemark.eq_def execution.item, recorded.annotations] at long slow
  unfold truncationFields
  rw [long, slow, state]
  cases extent <;> decide

theorem isAbout_of_archived (archived : ArchivedFrom execution.item item) {record : ArchiveRecord}
    {wall : Timestamp} (begun : execution.item.begun.isSome) (url : record.url = item.url.text)
    (date : record.date = (item.begun.getD wall).warcDate)
    (enforced : record.enforceLength = true ↔ record.type = .revisit ∨ record.type = .request)
    : record.IsAbout execution.item := by
  obtain ⟨moment, same⟩ := Option.isSome_iff_exists.mp begun
  refine ⟨by rw [url, archived.url], ?_, enforced⟩
  rw [date, archived.begun, same]
  rfl

/-- The principal record of an item that was fetched fits the recording, by cases of what the item
is found to be. Only an item whose content was looked up can be known already.
-/
theorem fits_principalOf (archived : ArchivedFrom execution.item item)
    (recorded : execution.IsRecorded before head extent.remark?.toList)
    (state : execution.state = extent.state) (laidOut : execution.IsLaidOut head)
    (begun : execution.item.begun.isSome)
    (whole
      : ∀ entry,
          revisitKind? item = some (.identicalDigest, entry)
          → execution.state ≠ .lengthTruncated)
    (wall : Timestamp) (id : String)
    : (principalOf item wall id).2.IsAbout execution.item
      ∧ (principalOf item wall id).2.Fits execution head (principalOf item wall id).1 := by
  have layout := archived.recorded.trans recorded.recorded
  unfold principalOf
  cases revisit : revisitKind? item with
  | none =>
      constructor
      · exact isAbout_of_archived archived begun rfl rfl (by simp [responseRecord])
      · refine .response rfl ?_ (truncationFields_of_recorded archived recorded state)
        simp [responseRecord, layout, laidOut.size]
  | some found =>
      obtain ⟨kind, entry⟩ := found
      cases kind with
      | notModified =>
          obtain rfl : entry = none := entry_of_notModified revisit
          constructor
          · exact isAbout_of_archived archived begun rfl rfl
              (by simp [recordOf, notModifiedRecord, revisitRecord])
          · refine .notModified rfl (profile_notModifiedFields item) ?_
            simp [recordOf, notModifiedRecord, revisitRecord, layout, laidOut.size]
      | identicalDigest =>
          obtain ⟨capture, rfl, -⟩ := earlierCapture_of_identicalDigest revisit
          constructor
          · exact isAbout_of_archived archived begun rfl rfl
              (by simp [recordOf, identicalDigestRecord, revisitRecord])
          · refine .identicalDigest rfl rfl ?_ (laidOut.whole (whole _ revisit))
            simp [recordOf, identicalDigestRecord, revisitRecord, layout]

/-- The record of the request counts the bytes of the request that was sent. -/
theorem accompanies_requestRecord (archived : ArchivedFrom execution.item item)
    (recorded : execution.IsRecorded before head extent.remark?.toList)
    (principal : ArchiveRecord) (wall : Timestamp) (id : String)
    : (requestRecord item principal.id wall id).Accompanies principal execution where
  type := rfl
  length := by simp [requestRecord, archived.recorded, recorded.recorded]
  concurrent := rfl

end Item

-----------------------------------------------------------------------------------------
-- The records of a whole attempt
-----------------------------------------------------------------------------------------

/-- An item that an attempt was made on afresh, and that has got a response, may be archived any
number of times under one policy, whatever the history and the identifiers are each time. It then
has its principal record, and behind it the one of its request exactly if requests get records. The
principal record fits the recorded bytes and does not go beyond them, and the record of the request
belongs to it.
-/
theorem records_fit_recording [Tokens α] {fetcher : Fetch.Fetcher} {item : CrawlItem}
    (fresh : item.IsFresh) {shared : Fetch.Shared} {replies : List Fetch.Reply}
    {wall : Timestamp} {now : Instant} {cancelAt : Option Instant}
    {execution : Fetch.Execution α}
    (executed
      : fetcher.execute? item shared replies wall now cancelAt = some execution)
    (answered : (execution.item.status.bind FetchStatus.http?).isSome)
    (visits : List Visit) (visit : Visit)
    (samePolicy : ∀ earlier ∈ visits, earlier.policy = visit.policy)
    : let archived := Visit.applyAll visits execution.item
      let (decision, later, _) := process visit.policy archived visit.wall visit.archiving
      ∃ head body principal request,
        Fetch.obtained? now cancelAt replies.head? = some (head, body)
        ∧ later.records.entries
          = (.principal, principal)
            :: (if visit.policy.requestRecords then [(.request, request)] else [])
        ∧ principal.IsAbout execution.item
        ∧ principal.Fits execution head decision
        ∧ principal.contentLength ≤ execution.recorder.replay.1.length
        ∧ request.IsAbout execution.item
        ∧ request.Accompanies principal execution := by
  intro archived
  obtain ⟨head, body, extent, obtained, state, recorded, unarchived, laidOut⟩ :=
    Fetch.recorded_of_execute? fresh executed answered
  obtain ⟨timed, -⟩ := Fetch.tells_of_execute? fresh executed
  have begun : execution.item.begun.isSome := by rw [timed.begun]; rfl
  obtain ⟨keeps, -⟩ := Visit.applyAll_keeps visits execution.item
  have archivable : isArchivable execution.item = true := by
    simp [isArchivable, answered, recorded.recorded]
  have isArranged : archived.records.IsArranged visit.policy :=
    Visit.isArranged_applyAll visits samePolicy archivable (.inl unarchived)
  obtain ⟨id, decided, records⟩ :=
    visit.apply_arranged (keeps.isArchivable.trans archivable) isArranged
  have loaded :=
    keeps.trans
      (archivedFrom_loadEarlier visit.policy.keyByLength visit.archiving.history archived)
  have touched := touches_iff_isComplete fresh executed visits visit
  -- Content that is known already has taken part in deduplication, so it was recorded whole.
  have whole
      : ∀ entry,
          revisitKind? (archived.loadEarlier visit.policy.keyByLength visit.archiving.history)
            = some (.identicalDigest, entry)
          → execution.state ≠ .lengthTruncated := by
    intro entry revisit
    have known : (visit.apply archived).1 = .revisit .identicalDigest := by
      rw [decided, principalOf, revisit]
      rfl
    rw [(touched.mp (.inl known)).state]
    decide
  obtain ⟨about, fits⟩ :=
    fits_principalOf loaded recorded state laidOut begun whole visit.wall
      visit.archiving.ids.first
  refine ⟨head, body, _, _, obtained, congrArg RecordSet.entries records, about,
    decided ▸ fits, fits.within laidOut, ?_, ?_⟩
  · exact isAbout_of_archived loaded begun rfl rfl (by simp [requestRecord])
  · exact accompanies_requestRecord loaded recorded _ visit.wall id

/-- A response that was recorded whole becomes a response record of all of its bytes; when it is
archived again, it becomes a revisit record of its envelope, and the record of the request belongs
to that.
-/
theorem records_fit_recording_twice
    : let url : Url :=
        ⟨"http", "", none, true, some (.domain "a"), none, .segments ["x"], none, none⟩
      let fetcher : Fetch.Fetcher := ⟨Fetch.FetchConfig.standard, .empty, ⟨[]⟩⟩
      let head : Http.ResponseHead := ⟨206, .http11, .empty⟩
      let replies : List Fetch.Reply := [⟨0, .response head [.chunk [1, 2]]⟩]
      let first : Visit := ⟨⟨false, true⟩, ⟨1, 0⟩, ⟨.empty, ⟨toString, 0⟩⟩⟩
      (CrawlItem.new url).IsFresh
      ∧ ∃ execution : Fetch.Execution Float,
          fetcher.execute? (.new url) .empty replies ⟨0, 0⟩ 0 none = some execution
          ∧ (execution.item.status.bind FetchStatus.http?).isSome
          ∧ let (_, archived, archiving) :=
              process first.policy execution.item first.wall first.archiving
            let (decision, later, _) := process first.policy archived first.wall archiving
            ∃ principal request,
              decision = .revisit .identicalDigest
              ∧ later.records.entries = [(.principal, principal), (.request, request)]
              ∧ principal.contentLength = execution.recorder.contentBegin
              ∧ execution.recorder.replay.1.take execution.recorder.contentBegin
                = head.envelope
              ∧ request.contentLength = execution.envelope.length
              ∧ request.fields.get? "WARC-Concurrent-To" = some ("<" ++ principal.id ++ ">") := by
  intro url fetcher head replies first
  have fresh : (CrawlItem.new url).IsFresh := CrawlItem.isFresh_new url
  have outcome
      : (fetcher.execute? (.new url) .empty replies ⟨0, 0⟩ 0 none
            : Option (Fetch.Execution Float)).map
          (fun execution =>
            let (_, archived, archiving) :=
              process first.policy execution.item first.wall first.archiving
            ((execution.item.status.bind FetchStatus.http?).isSome,
              (process first.policy archived first.wall archiving).1))
        = some (true, .revisit .identicalDigest) := by
    decide +kernel
  obtain ⟨execution, executed, told⟩ := Option.map_eq_some_iff.mp outcome
  obtain ⟨answered, known⟩ := Prod.mk.inj told
  let archiving := (process first.policy execution.item first.wall first.archiving).2.2
  obtain ⟨other, body, principal, request, obtained, entries, -, fits, -, -, accompanies⟩ :=
    records_fit_recording fresh executed answered [first] { first with archiving }
      (by simp)
  have received : Fetch.obtained? 0 none replies.head? = some (head, [.chunk [1, 2]]) := by
    decide
  have same : other = head := by
    rw [received] at obtained
    exact (congrArg (·.1) (Option.some.inj obtained)).symm
  refine ⟨fresh, execution, executed, answered, principal, request, known, entries, ?_⟩
  have fits : principal.Fits execution head (.revisit .identicalDigest) := known ▸ same ▸ fits
  cases fits with
  | identicalDigest type profile length envelope =>
      exact ⟨length, envelope, accompanies.length, accompanies.concurrent⟩

end WebHarvest.Archive
