import WebHarvest.Archive.Pipeline
import WebHarvest.Proofs.Archive.RecordLookup
import WebHarvest.Proofs.Fetch.Attempted

/-! The decision on one item, by what was found when its earlier captures were looked up.
Archiving an item leaves all that was fetched, so that it can be archived again under the same
key.
-/

namespace WebHarvest.Archive

open Calendar (Timestamp)

-----------------------------------------------------------------------------------------
-- What archiving leaves
-----------------------------------------------------------------------------------------

/-- An item before and after it was archived, any number of times: what was fetched is the same, and
all remarks but those on revisits.
-/
structure ArchivedFrom (item later : CrawlItem) : Prop where
  url : later.url = item.url
  begun : later.begun = item.begun
  status : later.status = item.status
  recorded : later.recorded = item.recorded
  digest : later.digest = item.digest
  remarks
    : ∀ remark,
        remark ≠ Remark.notModified
        → remark ≠ Remark.identicalDigest
        → later.hasRemark remark = item.hasRemark remark

namespace ArchivedFrom

variable {item later last : CrawlItem}

theorem refl (item : CrawlItem) : ArchivedFrom item item :=
  ⟨rfl, rfl, rfl, rfl, rfl, fun _ _ _ => rfl⟩

theorem trans (first : ArchivedFrom item later) (second : ArchivedFrom later last)
    : ArchivedFrom item last where
  url := second.url.trans first.url
  begun := second.begun.trans first.begun
  status := second.status.trans first.status
  recorded := second.recorded.trans first.recorded
  digest := second.digest.trans first.digest
  remarks remark fresh unseen :=
    (second.remarks remark fresh unseen).trans (first.remarks remark fresh unseen)

/-- No remark on a revisit bears on whether an item takes part in deduplication. -/
theorem isEligible (archived : ArchivedFrom item later) : later.isEligible = item.isEligible := by
  have long := archived.remarks Remark.lengthTruncated (by decide) (by decide)
  have slow := archived.remarks Remark.timeTruncated (by decide) (by decide)
  have unread := archived.remarks Remark.midfetchAborted (by decide) (by decide)
  rw [CrawlItem.isEligible, CrawlItem.isTruncated, long, slow, unread, archived.digest,
    archived.status]
  rfl

/-- The key stays. -/
theorem dedupKey? (archived : ArchivedFrom item later) (byLength : Bool)
    : later.dedupKey? byLength = item.dedupKey? byLength := by
  unfold CrawlItem.dedupKey? CrawlItem.captureKey?
  rw [archived.isEligible, archived.digest, archived.recorded]

/-- What can be archived can be archived again. -/
theorem isArchivable (archived : ArchivedFrom item later)
    : isArchivable later = isArchivable item := by
  simp only [Archive.isArchivable, archived.status, archived.recorded]

/-- An item stays settled. -/
theorem isSettled (archived : ArchivedFrom item later) (settled : Fetch.IsSettled item)
    : Fetch.IsSettled later where
  begun := archived.begun ▸ settled.begun
  recorded := by
    rw [archived.status, archived.recorded]
    exact settled.recorded

end ArchivedFrom

/-- Looking for an earlier capture leaves all that was fetched. -/
theorem archivedFrom_loadEarlier (byLength : Bool) (history : CaptureHistory) (item : CrawlItem)
    : ArchivedFrom item (item.loadEarlier byLength history) := by
  unfold CrawlItem.loadEarlier
  split
  · exact ⟨rfl, rfl, rfl, rfl, rfl, fun _ _ _ => rfl⟩
  · exact .refl item

/-- An item that takes part in deduplication has the entry of its key as its earlier capture. -/
theorem earlierCapture_loadEarlier {byLength : Bool} {item : CrawlItem} {key : CaptureKey}
    (keyed : item.dedupKey? byLength = some key) (history : CaptureHistory)
    : (item.loadEarlier byLength history).earlierCapture = history.lookup? key := by
  simp only [CrawlItem.loadEarlier, keyed]

/-- An item that takes no part is left alone. -/
theorem loadEarlier_of_keyless {byLength : Bool} {item : CrawlItem}
    (keyless : item.dedupKey? byLength = none) (history : CaptureHistory)
    : item.loadEarlier byLength history = item := by
  simp only [CrawlItem.loadEarlier, keyless]

/-- An item that takes part in deduplication has a successful response. -/
theorem status_of_keyed {byLength : Bool} {item : CrawlItem} {key : CaptureKey}
    (keyed : item.dedupKey? byLength = some key)
    : ∃ code, item.status = some (.http code) ∧ 200 ≤ code ∧ code < 300 := by
  unfold CrawlItem.dedupKey? at keyed
  split at keyed
  · rename_i eligible
    simp only [CrawlItem.isEligible, Bool.and_eq_true] at eligible
    have success := eligible.2
    cases status : item.status with
    | none => simp [status] at success
    | some status' =>
        cases status' with
        | http code =>
            refine ⟨code, rfl, ?_⟩
            simpa [status, FetchStatus.http?] using success
        | connectFailed => simp [status, FetchStatus.http?] at success
        | connectLost => simp [status, FetchStatus.http?] at success
        | prerequisiteFailed => simp [status, FetchStatus.http?] at success
  · cases keyed

/-- An item that takes part in deduplication, and was fetched, can be archived. -/
theorem isArchivable_of_keyed {byLength : Bool} {item : CrawlItem} {key : CaptureKey}
    (settled : Fetch.IsSettled item) (keyed : item.dedupKey? byLength = some key)
    : isArchivable item = true := by
  obtain ⟨code, status, -⟩ := status_of_keyed keyed
  have answered : (item.status.bind FetchStatus.http?).isSome := by
    simp [status, FetchStatus.http?]
  simp only [isArchivable, answered, settled.recorded answered, Bool.and_self]

/-- An item that takes part in deduplication is a revisit if its earlier capture has a URL. -/
theorem revisitKind?_of_keyed {byLength : Bool} {item : CrawlItem} {key : CaptureKey}
    (keyed : item.dedupKey? byLength = some key)
    : revisitKind? item
      = (item.earlierCapture.filter (!·.url.isEmpty)).map fun entry =>
          (.identicalDigest, some entry) := by
  obtain ⟨code, status, -, small⟩ := status_of_keyed keyed
  have changed : item.status.any (·.isNotModified) = false := by
    rw [status]
    simp only [Option.any_some]
    unfold FetchStatus.isNotModified
    split
    · rename_i same
      cases same
      omega
    · rfl
  unfold revisitKind?
  rw [changed]
  cases item.earlierCapture with
  | none => rfl
  | some entry => cases h : entry.url.isEmpty <;> simp [Option.filter, h]

/-- No URL is written as nothing. -/
theorem isEmpty_text (url : Url) : url.text.isEmpty = false := by
  have colon : ':' ∈ url.text.toList := by
    simp [Url.text]
  cases empty : url.text.isEmpty with
  | false => rfl
  | true =>
      rw [String.isEmpty_iff.mp empty] at colon
      simp at colon

-----------------------------------------------------------------------------------------
-- The decision after the lookup
-----------------------------------------------------------------------------------------

/-- A source of identifiers has been drawn from: its names are the same, and later ones are left. -/
structure IdSource.DrawnFrom (ids later : IdSource) : Prop where
  name : later.name = ids.name
  drawn : ids.next < later.next

/-- The identifier that a source gives next. -/
def IdSource.first (ids : IdSource) : String :=
  ids.name ids.next

/-- A record of the request leaves the principal record and all that was fetched. -/
theorem archiveRequest_shape (policy : Policy) (item : CrawlItem) (wall : Timestamp)
    (ids : IdSource)
    : ∃ records later,
        archiveRequest policy item wall ids = ({ item with records }, later)
        ∧ records.principal? = item.records.principal?
        ∧ later.name = ids.name
        ∧ ids.next ≤ later.next := by
  unfold archiveRequest
  split
  · exact ⟨_, _, rfl, RecordSet.principal?_insert_request _ _, rfl, Nat.le_succ _⟩
  · exact ⟨_, _, rfl, rfl, rfl, Nat.le_refl _⟩

/-- A revisit gets the record of its kind as its principal record, and leaves the history. -/
theorem conclude_of_revisit (policy : Policy) {item : CrawlItem} (wall : Timestamp)
    (archiving : Archiving) {kind : RevisitKind} {entry : Option CaptureEntry}
    (revisit : revisitKind? item = some (kind, entry))
    : ∃ records ids,
        conclude policy item wall archiving
          = (.revisit kind, { item.annotate kind.remark with records }, { archiving with ids })
        ∧ records.principal? = some (recordOf item wall archiving.ids.first entry)
        ∧ archiving.ids.DrawnFrom ids := by
  unfold conclude selectRevisit
  simp only [revisit, IdSource.draw]
  obtain ⟨records, later, requested, principal, name, drawn⟩ :=
    archiveRequest_shape policy
      { item.annotate kind.remark with
        records :=
          item.records.insert .principal (recordOf item wall archiving.ids.first entry) }
      wall { archiving.ids with next := archiving.ids.next + 1 }
  refine ⟨records, later, ?_, ?_, name, drawn⟩
  · rw [IdSource.first] at requested
    rw [requested]
  · rw [principal, RecordSet.principal?_insert_principal]

/-- An item that is no revisit gets a response record as its principal record, and is recorded as a
capture if it takes part in deduplication.
-/
theorem conclude_of_new (policy : Policy) {item : CrawlItem} (wall : Timestamp)
    (archiving : Archiving) (new : revisitKind? item = none)
    : ∃ records ids,
        conclude policy item wall archiving
          = (.response, { item with records },
              { history :=
                  (item.recordCapture policy.keyByLength archiving.history archiving.ids.first
                    wall).2
                ids })
        ∧ records.principal? = some (responseRecord item wall archiving.ids.first)
        ∧ archiving.ids.DrawnFrom ids := by
  unfold conclude selectRevisit
  simp only [new, archiveResponse, IdSource.draw]
  obtain ⟨records, later, requested, principal, name, drawn⟩ :=
    archiveRequest_shape policy
      { item with
        records := item.records.insert .principal (responseRecord item wall archiving.ids.first) }
      wall { archiving.ids with next := archiving.ids.next + 1 }
  refine ⟨records, later, ?_, ?_, name, drawn⟩
  · rw [IdSource.first] at requested
    rw [requested]
    rfl
  · rw [principal, RecordSet.principal?_insert_principal]

/-- What is told of the record that a revisit record refers to. -/
structure ArchiveRecord.RefersTo (revisit : ArchiveRecord) (id target : String)
    (captured : Timestamp)
    : Prop where
  type : revisit.type = .revisit
  recordId : revisit.fields.get? "WARC-Refers-To" = some ("<" ++ id ++ ">")
  url : revisit.fields.get? "WARC-Refers-To-Target-URI" = some target
  date : revisit.fields.get? "WARC-Refers-To-Date" = some captured.warcDate

/-- The record of an item with an earlier capture refers to what the entry tells. -/
theorem refersTo_identicalDigestRecord (item : CrawlItem) (entry : CaptureEntry)
    (wall : Timestamp) (id : String)
    : (identicalDigestRecord item entry wall id).RefersTo entry.recordId entry.url entry.date where
  type := rfl
  recordId := rfl
  url := rfl
  date := rfl

/-- A revisit because of an identical digest has an earlier capture. -/
theorem earlierCapture_of_identicalDigest {item : CrawlItem} {entry : Option CaptureEntry}
    (revisit : revisitKind? item = some (.identicalDigest, entry))
    : ∃ capture, entry = some capture ∧ item.earlierCapture = some capture := by
  unfold revisitKind? at revisit
  split at revisit
  · cases revisit
  · split at revisit
    · rename_i capture known
      split at revisit
      · cases revisit
      · cases revisit
        exact ⟨capture, rfl, known⟩
    · cases revisit

/-- A remark on a revisit, and records, leave all that was fetched. -/
theorem archivedFrom_annotate (item : CrawlItem) (kind : RevisitKind) (records : RecordSet)
    : ArchivedFrom item { item.annotate kind.remark with records } := by
  refine ⟨rfl, rfl, rfl, rfl, rfl, ?_⟩
  intro remark fresh unseen
  have other : remark ≠ kind.remark := by
    cases kind with
    | notModified => exact fresh
    | identicalDigest => exact unseen
  simp [CrawlItem.hasRemark, CrawlItem.annotate, other]

/-- Records leave all that was fetched. -/
theorem archivedFrom_records (item : CrawlItem) (records : RecordSet)
    : ArchivedFrom item { item with records } :=
  ⟨rfl, rfl, rfl, rfl, rfl, fun _ _ _ => rfl⟩

-----------------------------------------------------------------------------------------
-- The whole decision
-----------------------------------------------------------------------------------------

/-- An item whose key is not in the history becomes a response, and the first capture of the key. -/
theorem process_of_unknown {policy : Policy} {item : CrawlItem} (wall : Timestamp)
    {archiving : Archiving} {key : CaptureKey} (settled : Fetch.IsSettled item)
    (keyed : item.dedupKey? policy.keyByLength = some key)
    (unknown : archiving.history.lookup? key = none)
    : ∃ later ids,
        process policy item wall archiving
          = (.response, later,
              { history :=
                  (archiving.history.record key (item.capture archiving.ids.first wall)).2
                ids })
        ∧ ArchivedFrom item later
        ∧ later.records.principal? = some (responseRecord item wall archiving.ids.first) := by
  let loaded := { item with earlierCapture := none }
  have keyed' : loaded.dedupKey? policy.keyByLength = some key := keyed
  have new : revisitKind? loaded = none := revisitKind?_of_keyed keyed'
  obtain ⟨records, ids, concluded, principal, -⟩ := conclude_of_new policy wall archiving new
  refine ⟨{ loaded with records }, ids, ?_, ⟨rfl, rfl, rfl, rfl, rfl, fun _ _ _ => rfl⟩,
    principal⟩
  have load : item.loadEarlier policy.keyByLength archiving.history = loaded := by
    simp only [CrawlItem.loadEarlier, keyed, unknown]
    rfl
  have recorded
      : (loaded.recordCapture policy.keyByLength archiving.history archiving.ids.first wall).2
        = (archiving.history.record key (item.capture archiving.ids.first wall)).2 := by
    simp only [CrawlItem.recordCapture, keyed']
    rfl
  rw [recorded] at concluded
  simp only [process, isArchivable_of_keyed settled keyed, load]
  exact concluded

/-- An item whose key is in the history becomes a revisit that refers to the entry of the key. -/
theorem process_of_known {policy : Policy} {item : CrawlItem} (wall : Timestamp)
    {archiving : Archiving} {key : CaptureKey} {entry : CaptureEntry}
    (settled : Fetch.IsSettled item) (keyed : item.dedupKey? policy.keyByLength = some key)
    (known : archiving.history.lookup? key = some entry) (located : entry.url.isEmpty = false)
    : ∃ later ids,
        process policy item wall archiving
          = (.revisit .identicalDigest, later, { archiving with ids })
        ∧ ArchivedFrom item later
        ∧ later.records.principal?
          = some (identicalDigestRecord item entry wall archiving.ids.first) := by
  let loaded := { item with earlierCapture := some entry }
  have keyed' : loaded.dedupKey? policy.keyByLength = some key := keyed
  have revisit : revisitKind? loaded = some (.identicalDigest, some entry) := by
    rw [revisitKind?_of_keyed keyed']
    simp [loaded, Option.filter, located]
  obtain ⟨records, ids, concluded, principal, -⟩ :=
    conclude_of_revisit policy wall archiving revisit
  have load : item.loadEarlier policy.keyByLength archiving.history = loaded := by
    simp only [CrawlItem.loadEarlier, keyed, known]
    rfl
  refine ⟨{ loaded.annotate RevisitKind.identicalDigest.remark with records }, ids, ?_, ?_,
    principal⟩
  · simp only [process, isArchivable_of_keyed settled keyed, load]
    exact concluded
  · exact (load ▸ archivedFrom_loadEarlier _ _ item : ArchivedFrom item loaded).trans
      (archivedFrom_annotate loaded .identicalDigest records)

/-- The decision on an item that takes no part in deduplication. -/
def keylessDecision (item : CrawlItem) : Decision :=
  if isArchivable item then (revisitKind? item).elim .response fun (kind, _) => .revisit kind
  else .skipped

/-- What an item without a key becomes follows from the item alone, and the history stays. -/
theorem process_of_keyless {policy : Policy} {item : CrawlItem} (wall : Timestamp)
    (archiving : Archiving) (keyless : item.dedupKey? policy.keyByLength = none)
    : ∃ later ids,
        process policy item wall archiving
          = (keylessDecision item, later, { archiving with ids })
        ∧ ArchivedFrom item later
        ∧ later.earlierCapture = item.earlierCapture := by
  have load := loadEarlier_of_keyless keyless archiving.history
  cases archivable : isArchivable item with
  | false =>
      refine ⟨item, archiving.ids, ?_, .refl item, rfl⟩
      simp [process, keylessDecision, archivable]
  | true =>
      cases kind : revisitKind? item with
      | none =>
          obtain ⟨records, ids, concluded, -⟩ := conclude_of_new policy wall archiving kind
          have recorded
              : (item.recordCapture policy.keyByLength archiving.history archiving.ids.first
                  wall).2
                = archiving.history := by
            simp only [CrawlItem.recordCapture, keyless]
          rw [recorded] at concluded
          refine ⟨{ item with records }, ids, ?_, archivedFrom_records item records, rfl⟩
          simp only [process, keylessDecision, archivable, kind, load]
          exact concluded
      | some revisit =>
          obtain ⟨kind', entry⟩ := revisit
          obtain ⟨records, ids, concluded, -⟩ := conclude_of_revisit policy wall archiving kind
          refine ⟨_, ids, ?_, archivedFrom_annotate item kind' records, rfl⟩
          simp only [process, keylessDecision, archivable, kind, load]
          exact concluded

end WebHarvest.Archive
