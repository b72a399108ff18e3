import WebHarvest.Proofs.Fetch.Outcome

/-! Attempts on one item, one after the other. Each is made on the item as the one before has left
it, made ready again, so that of what came before it knows the snapshots only. An attempt leaves one
if it has recorded a response, unless that asks for credentials.
-/

namespace WebHarvest.Fetch

open Calendar (Timestamp)
open Clock (Instant)
open Recording (Recorder Tokens)

variable {α : Type}

-----------------------------------------------------------------------------------------
-- Attempts in order
-----------------------------------------------------------------------------------------

/-- All that an attempt depends on besides its item. -/
structure Occasion where
  fetcher : Fetcher
  shared : Shared
  replies : List Reply
  wall : Timestamp
  now : Instant
  cancelAt : Option Instant

namespace Occasion

/-- What comes of an item. -/
def attempt? [Tokens α] (occasion : Occasion) (item : CrawlItem) : Option (Execution α) :=
  occasion.fetcher.execute? item occasion.shared occasion.replies occasion.wall occasion.now
    occasion.cancelAt

/-- The request that is made for an item. -/
def request (occasion : Occasion) (item : CrawlItem) : Http.Request :=
  (occasion.fetcher.launch occasion.shared.servers item occasion.wall occasion.now).request

end Occasion

/-- The item for the next attempt after some, the last one first. -/
def readyAfter (item : CrawlItem) (attempts : List (Execution α)) : CrawlItem :=
  (attempts.head?.map (·.item.reset)).getD item

/-- Attempts on an item one after the other, the last one first. -/
inductive AreAttempts [Tokens α] (item : CrawlItem) : List (Execution α) → Prop
  | nothing : AreAttempts item []
  | another {earlier execution} (before : AreAttempts item earlier) (occasion : Occasion)
    (executed : occasion.attempt? (readyAfter item earlier) = some execution)
    : AreAttempts item (execution :: earlier)

/-- The attempts that come of some occasions, of both the last one first. -/
def attemptAll? [Tokens α] (item : CrawlItem) : List Occasion → Option (List (Execution α))
  | [] => some []
  | occasion :: earlier => do
    let attempts ← attemptAll? item earlier
    let execution ← occasion.attempt? (readyAfter item attempts)
    return execution :: attempts

theorem areAttempts_of_attemptAll? [Tokens α] {item : CrawlItem} {occasions : List Occasion}
    {attempts : List (Execution α)} (made : attemptAll? item occasions = some attempts)
    : AreAttempts item attempts := by
  induction occasions generalizing attempts with
  | nil =>
      cases made
      exact .nothing
  | cons occasion earlier ih =>
      simp only [attemptAll?, Option.bind_eq_bind, Option.bind_eq_some_iff] at made
      obtain ⟨before, attempted, execution, executed, rest⟩ := made
      cases rest
      exact .another (ih attempted) occasion executed

theorem isFresh_readyAfter {item : CrawlItem} (fresh : item.IsFresh)
    (attempts : List (Execution α))
    : (readyAfter item attempts).IsFresh := by
  cases attempts with
  | nil => exact fresh
  | cons last earlier => exact last.item.isFresh_reset

-----------------------------------------------------------------------------------------
-- What one attempt leaves
-----------------------------------------------------------------------------------------

/-- An attempt has left a snapshot: it has recorded a response that asks for no credentials. -/
def Execution.hasSnapshot (execution : Execution α) : Bool :=
  (execution.item.status.bind FetchStatus.http?).any Fetcher.leavesSnapshot

/-- The attempt has ended with a response that says that nothing has changed. -/
def Execution.isNotModified (execution : Execution α) : Bool :=
  execution.item.status.any (·.isNotModified)

/-- The attempt has left a snapshot of content that it brought itself. -/
def Execution.isFull (execution : Execution α) : Bool :=
  execution.hasSnapshot && !execution.isNotModified

/-- The length that the latest snapshot of an item refers to. -/
def latestReference? (item : CrawlItem) : Option Nat :=
  item.latest?.bind (·.referenceLength)

/-- The length that an item with a status refers to: that of its latest snapshot if the status says
that nothing has changed, else none.
-/
def referenceOf (item : CrawlItem) (status : Option FetchStatus) : Option Nat :=
  if status.any (·.isNotModified) then latestReference? item else none

/-- The length of the content of a recording that refers to another one. -/
def contentSizeOf (size : Nat) (reference : Option Nat) : Nat :=
  reference.elim size fun length => (size + length) % sizeModulus

/-- Noting sizes sets the layout of the recording, the length that is referred to, and the length of
the content, which counts both.
-/
theorem setSizes_eq (recorder : Recorder α) (requestLength : Nat) (item : CrawlItem)
    : setSizes recorder requestLength item
      = { item with
          recorded := some ⟨recorder.size, recorder.contentBegin, requestLength⟩
          referenceLength := (referenceOf item item.status).or item.referenceLength
          contentSize := contentSizeOf recorder.size (referenceOf item item.status) } := by
  unfold setSizes
  dsimp only
  split
  · rename_i length refers
    have refers : referenceOf item item.status = some length := refers
    rw [refers]
    rfl
  · rename_i refers
    have refers : referenceOf item item.status = none := refers
    rw [refers]
    rfl

/-- What an attempt that has recorded `size` bytes of a response with status `code` leaves on its
item. The lengths agree with the snapshot that was the latest before; and a snapshot of the item as
it is now comes in front of those before, of which no more than `keep` stay, or none if the status
allows none.
-/
structure Continues (before item : CrawlItem) (size code keep : Nat) (wall : Timestamp) : Prop where
  status : item.status = some (.http code)
  recorded : item.recorded.map (·.size) = some size
  referenceLength : item.referenceLength = referenceOf before item.status
  contentSize : item.contentSize = contentSizeOf size (referenceOf before item.status)
  snapshots
    : item.snapshots
      = if Fetcher.leavesSnapshot code then
          ({ item with snapshots := before.snapshots }.snapshot (.http code) wall
            :: before.snapshots).take (max keep 1)
        else before.snapshots

/-- The snapshot is that of the item at the end of the attempt, since what comes after it changes
nothing that a snapshot tells.
-/
theorem continues_completion {before settled : CrawlItem} {size code keep : Nat}
    {wall : Timestamp} (status : settled.status = some (.http code))
    (recorded : settled.recorded.map (·.size) = some size)
    (referenceLength : settled.referenceLength = referenceOf before settled.status)
    (contentSize : settled.contentSize = contentSizeOf size (referenceOf before settled.status))
    (snapshots : settled.snapshots = before.snapshots)
    : Continues before
        ((if Fetcher.leavesSnapshot code then settled.recordSnapshot keep wall
          else settled).setCompleted wall)
        size code keep wall := by
  cases leaves : Fetcher.leavesSnapshot code with
  | true =>
      have left
          : settled.recordSnapshot keep wall
            = settled.pushSnapshot (settled.snapshot (.http code) wall) keep := by
        simp only [CrawlItem.recordSnapshot, status]
      rw [if_pos rfl, left]
      exact {
        status, recorded, referenceLength, contentSize
        snapshots := by
          rw [if_pos leaves, ← snapshots]
          rfl
      }
  | false =>
      rw [if_neg Bool.false_ne_true]
      exact {
        status, recorded, referenceLength, contentSize
        snapshots := by
          rw [if_neg (by simp [leaves])]
          exact snapshots
      }

/-- A response that is recorded for an item that was made ready leaves on it what the status says.
-/
theorem continues_of_landRecorded {fetcher : Fetcher} {launch : Launch} {recorder : Recorder α}
    {head : Http.ResponseHead} {extent : Extent} {wall : Timestamp} {shared : Shared}
    {item : CrawlItem} (undecided : launch.item.status = none)
    (unreferred : launch.item.referenceLength = none)
    (landed : item = (fetcher.landRecorded launch recorder head extent wall shared).1)
    : Continues launch.item item recorder.size head.status fetcher.config.snapshotsKept wall := by
  let digested :=
    setContentDigest recorder.digest extent
      (setSizes recorder launch.request.envelope.length (remarked head extent launch.item))
  let settled := (fetcher.settleAccess head launch.presented digested shared).1
  obtain ⟨credentials, challenges, same⟩ :
      ∃ credentials challenges, settled = { digested with credentials, challenges } :=
    settleAccess_shape fetcher head launch.presented digested shared
  simp only [digested, setContentDigest_eq, setSizes_eq, remarked_eq undecided, unreferred,
    Option.or_none] at same
  have ended
      : Continues launch.item
          ((if Fetcher.leavesSnapshot head.status then
              settled.recordSnapshot fetcher.config.snapshotsKept wall
            else settled).setCompleted wall)
          recorder.size head.status fetcher.config.snapshotsKept wall := by
    apply continues_completion
    · rw [same]
    · rw [same]
      rfl
    · rw [same]
      rfl
    · rw [same]
      rfl
    · rw [same]
  exact landed ▸ ended

variable {occasion : Occasion} {item before : CrawlItem} {execution : Execution α}

/-- What an attempt leaves on an item that was made ready for it, by cases of how the transfer
ended: with a response what its status says, else no more than there was before.
-/
theorem continues_of_attempt? [Tokens α] (fresh : before.IsFresh)
    (executed : occasion.attempt? before = some execution)
    : (∃ code,
        Continues before execution.item execution.recorder.size code
          occasion.fetcher.config.snapshotsKept occasion.wall)
      ∨ (execution.item.status.bind FetchStatus.http? = none
        ∧ execution.item.snapshots = before.snapshots) := by
  obtain ⟨landed, recorder, -⟩ := landed_of_execute? executed
  obtain ⟨underWay, undecided⟩ := fresh.isUnderWay_setBegun occasion.wall
  obtain ⟨why, -, made, -⟩ | ⟨head, why, -, made, -⟩ | ⟨head, extent, -, made, -⟩ :=
    cases_of_land? landed
  · obtain ⟨-, givenUp⟩ := isGivenUp_of_giveUp underWay rfl made
    exact .inr ⟨by rw [givenUp.status]; rfl, givenUp.snapshots⟩
  · have observed := observeHead_isUnderWay underWay undecided head
    obtain ⟨-, givenUp⟩ := isGivenUp_of_giveUp observed rfl made
    exact .inr ⟨by rw [givenUp.status]; rfl, givenUp.snapshots⟩
  · have unreferred : (before.setBegun occasion.wall).referenceLength = none := by
      rw [← fresh]
      rfl
    rw [← recorder] at made
    have continues := continues_of_landRecorded undecided unreferred (congrArg (·.1) made).symm
    exact .inl ⟨head.status, { continues with }⟩

theorem Continues.latest?_eq {size code keep : Nat} {wall : Timestamp}
    (continues : Continues before item size code keep wall)
    (leaves : Fetcher.leavesSnapshot code = true)
    : item.latest?
      = some ({ item with snapshots := before.snapshots }.snapshot (.http code) wall) := by
  rw [CrawlItem.latest?, continues.snapshots, if_pos leaves]
  simp [List.head?_take]

/-- The same by cases of whether the attempt has left a snapshot: if it has not, the latest one is
what it was before.
-/
theorem snapshot_of_attempt? [Tokens α] (fresh : before.IsFresh)
    (executed : occasion.attempt? before = some execution)
    : (∃ code,
        execution.hasSnapshot = true
        ∧ Fetcher.leavesSnapshot code = true
        ∧ Continues before execution.item execution.recorder.size code
          occasion.fetcher.config.snapshotsKept occasion.wall)
      ∨ (execution.hasSnapshot = false ∧ execution.item.latest? = before.latest?) := by
  rcases continues_of_attempt? fresh executed with ⟨code, continues⟩ | ⟨unanswered, same⟩
  · have seen : execution.hasSnapshot = Fetcher.leavesSnapshot code := by
      simp [Execution.hasSnapshot, continues.status, FetchStatus.http?]
    cases leaves : Fetcher.leavesSnapshot code with
    | true => exact .inl ⟨code, seen.trans leaves, leaves, continues⟩
    | false =>
        have same : execution.item.snapshots = before.snapshots := by
          simpa [leaves] using continues.snapshots
        exact .inr ⟨seen.trans leaves, by rw [CrawlItem.latest?, same, CrawlItem.latest?]⟩
  · exact .inr ⟨by simp [Execution.hasSnapshot, unanswered], by
      rw [CrawlItem.latest?, same, CrawlItem.latest?]⟩

end WebHarvest.Fetch
