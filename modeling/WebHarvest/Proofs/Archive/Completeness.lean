import WebHarvest.Proofs.Archive.Decision
import WebHarvest.Proofs.Capture.Lookup
import WebHarvest.Proofs.Fetch.Outcome

/-! Only what was recorded whole takes part in deduplication. Archiving reads this off the digest,
the status and the remarks of an item; an attempt leaves them so that they say just that.
-/

namespace WebHarvest

open Calendar (Timestamp)
open Clock (Instant)
open Recording (Recorder Tokens)

-----------------------------------------------------------------------------------------
-- Attempts that took part
-----------------------------------------------------------------------------------------

namespace Fetch

variable {α : Type}

/-- A successful response was recorded whole, and its item has the digest of all of its body. -/
structure Execution.IsComplete (execution : Execution α) (config : FetchConfig) : Prop where
  state : execution.state = .completed
  success : ∃ code, execution.item.status = some (.http code) ∧ 200 ≤ code ∧ code ≤ 299
  digest
    : ∃ algorithm ∈ config.digest?,
        execution.item.digest
        = some
            (algorithm.digest
              (execution.recorder.replay.1.drop execution.recorder.contentBegin))

variable {execution : Execution α} {config : FetchConfig}

theorem isEligible_iff_of_given_up {before : CrawlItem} {status : FetchStatus}
    (givenUp : execution.IsGivenUp before status) (incomplete : execution.state ≠ .completed)
    : execution.item.isEligible = true ↔ execution.IsComplete config := by
  have ineligible : execution.item.isEligible = false := by
    simp [CrawlItem.isEligible, givenUp.digest]
  exact iff_of_false (by simp [ineligible]) fun complete => incomplete complete.state

/-- A remark on what was cut off keeps a response out. -/
theorem isEligible_iff_of_remarked {before : CrawlItem} {head : Http.ResponseHead}
    {remark : String} (recorded : execution.IsRecorded before head [remark])
    (listed
      : remark = Remark.midfetchAborted
        ∨ remark = Remark.timeTruncated
        ∨ remark = Remark.lengthTruncated)
    (incomplete : execution.state ≠ .completed)
    : execution.item.isEligible = true ↔ execution.IsComplete config := by
  have ineligible : execution.item.isEligible = false := by
    rcases listed with rfl | rfl | rfl <;>
      simp [CrawlItem.isEligible, CrawlItem.isTruncated, CrawlItem.hasRemark,
        recorded.annotations]
  exact iff_of_false (by simp [ineligible]) fun complete => incomplete complete.state

/-- Without a remark the status and the digest decide. -/
theorem isEligible_iff_of_recorded {before : CrawlItem} {head : Http.ResponseHead}
    (recorded : execution.IsRecorded before head []) (state : execution.state = .completed)
    (digest
      : execution.recorder.digest
        = config.digest?.map fun algorithm =>
            algorithm.digest
              (execution.recorder.replay.1.drop execution.recorder.contentBegin))
    : execution.item.isEligible = true ↔ execution.IsComplete config := by
  have eligible
      : execution.item.isEligible
        = (config.digest?.isSome
          && (decide (200 ≤ head.status) && decide (head.status < 300))) := by
    simp [CrawlItem.isEligible, CrawlItem.isTruncated, CrawlItem.hasRemark, recorded.annotations,
      recorded.digest, recorded.status, state, digest, FetchStatus.http?]
  constructor
  · intro holds
    simp only [eligible, Bool.and_eq_true, decide_eq_true_eq] at holds
    obtain ⟨digested, least, most⟩ := holds
    obtain ⟨algorithm, chosen⟩ := Option.isSome_iff_exists.mp digested
    refine ⟨state, ⟨head.status, recorded.status, least, Nat.le_of_lt_succ most⟩, algorithm,
      chosen, ?_⟩
    simp [recorded.digest, state, digest, chosen]
  · rintro ⟨-, ⟨code, status, least, most⟩, algorithm, chosen, -⟩
    rw [recorded.status] at status
    cases status
    rw [Option.mem_def.mp chosen] at eligible
    simp only [eligible, Option.isSome_some, Bool.and_eq_true, decide_eq_true_eq, true_and]
    exact ⟨least, Nat.lt_succ_of_le most⟩

/-- After an attempt on a fresh item, archiving lets it take part exactly if it is complete, by
cases of what the state tells.
-/
theorem isEligible_iff_isComplete [Tokens α] {fetcher : Fetcher} {item : CrawlItem}
    {shared : Shared} {replies : List Reply} {wall : Timestamp} {now : Instant}
    {cancelAt : Option Instant} (fresh : item.IsFresh)
    (executed
      : fetcher.execute? item shared replies wall now cancelAt = some execution)
    : execution.item.isEligible = true ↔ execution.IsComplete fetcher.config := by
  obtain ⟨-, tells⟩ := tells_of_execute? fresh executed
  unfold Execution.Tells at tells
  split at tells
  · rename_i state _
    exact isEligible_iff_of_given_up tells (by simp [state])
  · rename_i state _
    exact isEligible_iff_of_given_up tells (by simp [state])
  · rename_i head state _
    obtain ⟨-, recorder, -⟩ := landed_of_execute? executed
    obtain ⟨closed, envelope, body, holds, -⟩ :=
      Transfer.isRecording_run (α := α) fetcher.config
        (fetcher.launch shared.servers item wall now) cancelAt replies.head?
    rw [← recorder] at closed holds
    refine isEligible_iff_of_recorded tells state ?_
    rw [holds.finished closed, holds.replay_fst, holds.contentBegin, List.drop_left]
  · rename_i state _
    exact isEligible_iff_of_remarked tells (.inl rfl) (by simp [state])
  · rename_i state _
    exact isEligible_iff_of_remarked tells (.inr (.inl rfl)) (by simp [state])
  · rename_i state _
    exact isEligible_iff_of_remarked tells (.inr (.inr rfl)) (by simp [state])
  · cases tells

end Fetch

-----------------------------------------------------------------------------------------
-- Items that are archived again and again
-----------------------------------------------------------------------------------------

namespace Archive

variable {item : CrawlItem}

theorem dedupKey?_of_ineligible (ineligible : item.isEligible = false) (byLength : Bool)
    : item.dedupKey? byLength = none := by
  simp [CrawlItem.dedupKey?, ineligible]

theorem dedupKey?_of_eligible (eligible : item.isEligible = true) (byLength : Bool)
    : ∃ key, item.dedupKey? byLength = some key := by
  have digested : item.digest.isSome := by
    simp only [CrawlItem.isEligible, Bool.and_eq_true] at eligible
    exact eligible.1.1.1
  obtain ⟨digest, known⟩ := Option.isSome_iff_exists.mp digested
  simp [CrawlItem.dedupKey?, CrawlItem.captureKey?, eligible, known]

theorem archivedFrom_conclude (policy : Policy) (item : CrawlItem) (wall : Timestamp)
    (archiving : Archiving)
    : ArchivedFrom item (conclude policy item wall archiving).2.1 := by
  cases revisit : revisitKind? item with
  | none =>
      obtain ⟨records, ids, concluded, -⟩ := conclude_of_new policy wall archiving revisit
      rw [concluded]
      exact archivedFrom_records item records
  | some found =>
      obtain ⟨kind, entry⟩ := found
      obtain ⟨records, ids, concluded, -⟩ := conclude_of_revisit policy wall archiving revisit
      rw [concluded]
      exact archivedFrom_annotate item kind records

/-- What one time of archiving an item depends on besides the item: how items are archived, when,
and whatever the history is by then.
-/
structure Visit where
  policy : Policy
  wall : Timestamp
  archiving : Archiving

namespace Visit

/-- What comes of an item. -/
def apply (visit : Visit) (item : CrawlItem) : Decision × CrawlItem × Archiving :=
  process visit.policy item visit.wall visit.archiving

/-- An item after visits in order. -/
def applyAll (visits : List Visit) (item : CrawlItem) : CrawlItem :=
  visits.foldl (fun item visit => (visit.apply item).2.1) item

theorem archivedFrom_apply (visit : Visit) (item : CrawlItem)
    : ArchivedFrom item (visit.apply item).2.1 := by
  unfold apply process
  split
  · exact .refl item
  · exact (archivedFrom_loadEarlier _ _ item).trans (archivedFrom_conclude _ _ _ _)

/-- All visits leave what was fetched; and an item that takes no part keeps the earlier capture that
it came with, by induction on the visits.
-/
theorem applyAll_keeps (visits : List Visit) (item : CrawlItem)
    : ArchivedFrom item (applyAll visits item)
      ∧ (item.isEligible = false
        → (applyAll visits item).earlierCapture = item.earlierCapture) := by
  induction visits generalizing item with
  | nil => exact ⟨.refl item, fun _ => rfl⟩
  | cons visit rest ih =>
      have once := visit.archivedFrom_apply item
      obtain ⟨later, kept⟩ := ih (visit.apply item).2.1
      refine ⟨once.trans later, ?_⟩
      intro ineligible
      obtain ⟨next, ids, processed, -, unlooked⟩ :=
        process_of_keyless visit.wall visit.archiving
          (dedupKey?_of_ineligible ineligible visit.policy.keyByLength)
      have same : (visit.apply item).2.1 = next := by
        rw [apply, processed]
      exact (kept (once.isEligible.trans ineligible)).trans (same ▸ unlooked)

/-- A visit finds content that is known, or remembers it. -/
def Touches (visit : Visit) (item : CrawlItem) : Prop :=
  (visit.apply item).1 = .revisit .identicalDigest
  ∨ (visit.apply item).2.2.history ≠ visit.archiving.history

theorem not_touches_of_ineligible (visit : Visit) (ineligible : item.isEligible = false)
    (unlooked : item.earlierCapture = none)
    : ¬visit.Touches item := by
  obtain ⟨later, ids, processed, -⟩ :=
    process_of_keyless visit.wall visit.archiving
      (dedupKey?_of_ineligible ineligible visit.policy.keyByLength)
  have kind : keylessDecision item ≠ .revisit .identicalDigest := by
    unfold keylessDecision revisitKind?
    rw [unlooked]
    split
    · split <;> simp
    · simp
  rintro (revisit | changed)
  · rw [apply, processed] at revisit
    exact kind revisit
  · rw [apply, processed] at changed
    exact changed rfl

/-- An item that takes part is found to be known, or else its capture is recorded. -/
theorem touches_of_eligible (visit : Visit) (settled : Fetch.IsSettled item)
    (eligible : item.isEligible = true)
    : visit.Touches item := by
  obtain ⟨policy, wall, archiving⟩ := visit
  obtain ⟨key, keyed⟩ := dedupKey?_of_eligible eligible policy.keyByLength
  have loadedKey := (archivedFrom_loadEarlier policy.keyByLength archiving.history item).dedupKey?
    policy.keyByLength
  rw [keyed] at loadedKey
  unfold Touches apply process
  rw [isArchivable_of_keyed settled keyed]
  cases revisit : revisitKind? (item.loadEarlier policy.keyByLength archiving.history) with
  | none =>
      obtain ⟨records, ids, concluded, -⟩ := conclude_of_new policy wall archiving revisit
      refine .inr ?_
      simp only [concluded, CrawlItem.recordCapture, loadedKey]
      exact archiving.history.record_ne _ _
  | some found =>
      obtain ⟨kind, entry⟩ := found
      obtain ⟨records, ids, concluded, -⟩ := conclude_of_revisit policy wall archiving revisit
      rw [revisitKind?_of_keyed loadedKey] at revisit
      obtain ⟨known, -, same⟩ := Option.map_eq_some_iff.mp revisit
      cases same
      exact .inl (by simp [concluded])

end Visit

/-- An item that an attempt was made on afresh may be archived any number of times, whatever the
history is each time. A visit then calls it a revisit because of an identical digest, or changes the
history, exactly if the attempt has recorded a successful response whole and has left the digest of
all of its body.
-/
theorem touches_iff_isComplete {α : Type} [Tokens α] {fetcher : Fetch.Fetcher}
    {item : CrawlItem} (fresh : item.IsFresh) {shared : Fetch.Shared}
    {replies : List Fetch.Reply} {wall : Timestamp} {now : Instant} {cancelAt : Option Instant}
    {execution : Fetch.Execution α}
    (executed
      : fetcher.execute? item shared replies wall now cancelAt = some execution)
    (visits : List Visit) (visit : Visit)
    : let archived := Visit.applyAll visits execution.item
      let (decision, _, archiving) := process visit.policy archived visit.wall visit.archiving
      (decision = .revisit .identicalDigest ∨ archiving.history ≠ visit.archiving.history)
      ↔ execution.IsComplete fetcher.config := by
  obtain ⟨settled, unlooked⟩ : Fetch.IsSettled execution.item
      ∧ execution.item.earlierCapture = item.earlierCapture :=
    Fetch.IsAttempted.settles ⟨α, _, _, _, _, _, _, _, execution, executed, rfl⟩
  have unlooked : execution.item.earlierCapture = none := by
    rw [unlooked, ← fresh]
    rfl
  obtain ⟨archived, kept⟩ := Visit.applyAll_keeps visits execution.item
  rw [← Fetch.isEligible_iff_isComplete fresh executed, ← archived.isEligible]
  constructor
  · intro touched
    by_contra ineligible
    have ineligible := Bool.eq_false_iff.mpr ineligible
    have stays := kept (archived.isEligible.symm.trans ineligible)
    exact visit.not_touches_of_ineligible ineligible (stays.trans unlooked) touched
  · intro eligible
    exact visit.touches_of_eligible (archived.isSettled settled) eligible

/-- A response that was recorded whole is remembered by the first visit and known to the second. -/
theorem touches_iff_isComplete_twice
    : let url : Url :=
        ⟨"http", "", none, true, some (.domain "a"), none, .segments ["x"], none, none⟩
      let fetcher : Fetch.Fetcher := ⟨Fetch.FetchConfig.standard, .empty, ⟨[]⟩⟩
      let replies : List Fetch.Reply := [⟨0, .response ⟨206, .http11, .empty⟩ [.chunk [1, 2]]⟩]
      let first : Visit := ⟨⟨false, false⟩, ⟨1, 0⟩, ⟨.empty, ⟨toString, 0⟩⟩⟩
      (CrawlItem.new url).IsFresh
      ∧ ∃ execution : Fetch.Execution Float,
          fetcher.execute? (.new url) .empty replies ⟨0, 0⟩ 0 none = some execution
          ∧ execution.IsComplete fetcher.config
          ∧ let (_, archived, archiving) :=
              process first.policy execution.item first.wall first.archiving
            let (decision, _, later) := process first.policy archived first.wall archiving
            decision = .revisit .identicalDigest ∨ later.history ≠ archiving.history := by
  intro url fetcher replies first
  have fresh : (CrawlItem.new url).IsFresh := CrawlItem.isFresh_new url
  have ended
      : (fetcher.execute? (.new url) .empty replies ⟨0, 0⟩ 0 none
          : Option (Fetch.Execution Float)).isSome := by
    decide +kernel
  have remembered
      : ((fetcher.execute? (.new url) .empty replies ⟨0, 0⟩ 0 none
            : Option (Fetch.Execution Float)).map fun execution =>
          (process first.policy execution.item first.wall first.archiving).2.2.history.size)
        = some 1 := by
    decide +kernel
  obtain ⟨execution, executed⟩ := Option.isSome_iff_exists.mp ended
  have complete : execution.IsComplete fetcher.config := by
    refine (touches_iff_isComplete fresh executed [] first).mp (.inr ?_)
    intro same
    rw [executed, Option.map_some, Option.some.injEq] at remembered
    exact absurd (congrArg CaptureHistory.size same ▸ remembered) (by decide)
  refine ⟨fresh, execution, executed, complete, ?_⟩
  exact (touches_iff_isComplete fresh executed [first]
    { first with
      archiving := (process first.policy execution.item first.wall first.archiving).2.2 }).mpr
    complete

end Archive

end WebHarvest
