import WebHarvest.Proofs.Fetch.Series

/-! The size that a response stands for which says that nothing has changed: its own bytes and those
of the last attempt that brought the content. However many such responses follow one another, each
refers past the others to that attempt. Where there was none, the first of them takes its place.
-/

namespace WebHarvest.Fetch

open Calendar (Timestamp)
open Clock (Instant)
open Recording (Tokens)

-----------------------------------------------------------------------------------------
-- The attempt that is referred to
-----------------------------------------------------------------------------------------

variable {α : Type}

/-- The recorded length that attempts, the last one first, leave to the next one: of the last one
that brought the content itself, else of the very first that left a snapshot.
-/
def reference? (earlier : List (Execution α)) : Option Nat :=
  ((earlier.find? (·.isFull)).or (earlier.filter (·.hasSnapshot)).getLast?).map (·.recorder.size)

/-- An attempt without a snapshot leaves to the next one what was left to it. -/
theorem reference?_cons_of_unseen {last : Execution α} (unseen : last.hasSnapshot = false)
    (earlier : List (Execution α))
    : reference? (last :: earlier) = reference? earlier := by
  simp [reference?, Execution.isFull, unseen]

/-- One that brought the content leaves its own length. -/
theorem reference?_cons_of_full {last : Execution α} (full : last.isFull = true)
    (earlier : List (Execution α))
    : reference? (last :: earlier) = some last.recorder.size := by
  simp [reference?, full]

/-- One that says that nothing has changed leaves what was left to it, or its own length. -/
theorem reference?_cons_of_notModified {last : Execution α} (seen : last.hasSnapshot = true)
    (notModified : last.isNotModified = true) (earlier : List (Execution α))
    : reference? (last :: earlier) = (reference? earlier).or (some last.recorder.size) := by
  have partial' : last.isFull = false := by simp [Execution.isFull, notModified]
  simp only [reference?, List.find?_cons, partial', List.filter_cons, seen, if_true,
    List.getLast?_cons]
  cases earlier.find? (·.isFull) <;>
    cases (earlier.filter (·.hasSnapshot)).getLast? <;> rfl

-----------------------------------------------------------------------------------------
-- The length in the latest snapshot
-----------------------------------------------------------------------------------------

variable {item : CrawlItem}

/-- The snapshot of an attempt refers to what the attempt itself refers to, else to its own bytes.
-/
theorem Continues.latestReference?_eq {before : CrawlItem} {size code keep : Nat}
    {wall : Timestamp} (continues : Continues before item size code keep wall)
    (leaves : Fetcher.leavesSnapshot code = true)
    : latestReference? item = (referenceOf before item.status).or (some size) := by
  rw [latestReference?, continues.latest?_eq leaves]
  simp [CrawlItem.snapshot, continues.recorded, continues.referenceLength]

/-- Whatever the attempts so far, the latest snapshot refers to the length that they leave to the
next one. The induction is on the attempts; an attempt without a snapshot changes neither.
-/
theorem AreAttempts.latestReference?_readyAfter [Tokens α] {attempts : List (Execution α)}
    (fresh : item.IsFresh) (unfetched : item.snapshots = [])
    (attempted : AreAttempts item attempts)
    : latestReference? (readyAfter item attempts) = reference? attempts := by
  induction attempted with
  | nothing => simp [readyAfter, latestReference?, CrawlItem.latest?, unfetched, reference?]
  | @another earlier last before occasion executed ih =>
      change latestReference? last.item = reference? (last :: earlier)
      rcases snapshot_of_attempt? (isFresh_readyAfter fresh earlier) executed with
        ⟨code, seen, leaves, continues⟩ | ⟨unseen, same⟩
      · rw [continues.latestReference?_eq leaves, referenceOf, ← Execution.isNotModified, ih]
        cases notModified : last.isNotModified with
        | false =>
            have full : last.isFull = true := by simp [Execution.isFull, seen, notModified]
            rw [reference?_cons_of_full full]
            rfl
        | true =>
            rw [reference?_cons_of_notModified seen notModified]
            rfl
      · rw [reference?_cons_of_unseen unseen, ← ih, latestReference?, same, latestReference?]

-----------------------------------------------------------------------------------------
-- The size of content that has not changed
-----------------------------------------------------------------------------------------

/-- Whatever attempts were made on an item that began without a snapshot, an attempt that ends with
status 304 stands for its own bytes and those that the earlier attempts leave to it, and its
snapshot refers to the latter, or to its own bytes if there are none.
-/
theorem AreAttempts.size_of_notModified [Tokens α] {execution : Execution α}
    {earlier : List (Execution α)} (fresh : item.IsFresh) (unfetched : item.snapshots = [])
    (attempted : AreAttempts item (execution :: earlier))
    (notModified : execution.item.status = some (.http 304))
    : execution.item.contentSize = contentSizeOf execution.recorder.size (reference? earlier)
      ∧ execution.item.latest?.bind (·.referenceLength)
        = some ((reference? earlier).getD execution.recorder.size) := by
  obtain _ | ⟨before, occasion, executed⟩ := attempted
  have known := before.latestReference?_readyAfter fresh unfetched
  rcases snapshot_of_attempt? (isFresh_readyAfter fresh earlier) executed with
    ⟨code, -, -, continues⟩ | ⟨unseen, -⟩
  · obtain rfl : code = 304 := by simpa [continues.status] using notModified
    have reference : referenceOf (readyAfter item earlier) execution.item.status
        = reference? earlier := by
      rw [← known, notModified]
      rfl
    constructor
    · rw [continues.contentSize, reference]
    · change latestReference? execution.item = _
      rw [continues.latestReference?_eq rfl, reference]
      cases reference? earlier <;> rfl
  · simp [Execution.hasSnapshot, notModified, FetchStatus.http?, Fetcher.leavesSnapshot] at unseen

/-- After content of twenty-one bytes, a response that nothing has changed, and one that asks for
credentials, the next response that nothing has changed stands for the content and its own bytes.
-/
theorem AreAttempts.size_of_notModified_again
    : let url : Url :=
        ⟨"http", "", none, true, some (.domain "a"), none, .segments ["x"], none, none⟩
      let occasion (status : Nat) (body : Recording.Stream) : Occasion :=
        ⟨⟨FetchConfig.standard, .empty, ⟨[]⟩⟩, .empty,
          [⟨0, .response ⟨status, .http11, .empty⟩ body⟩], ⟨0, 0⟩, 0, none⟩
      ∃ (execution : Execution Float) (earlier : List (Execution Float)),
        attemptAll? (.new url)
            [occasion 304 [], occasion 401 [], occasion 304 [], occasion 200 [.chunk [104, 105]]]
          = some (execution :: earlier)
        ∧ (CrawlItem.new url).IsFresh
        ∧ (CrawlItem.new url).snapshots = []
        ∧ AreAttempts (.new url) (execution :: earlier)
        ∧ execution.item.status = some (.http 304)
        ∧ execution.item.contentSize = 29 + 21
        ∧ execution.item.latest?.bind (·.referenceLength) = some 21 := by
  intro url occasion
  have outcome
      : (attemptAll? (.new url)
            [occasion 304 [], occasion 401 [], occasion 304 [],
              occasion 200 [.chunk [104, 105]]]
          : Option (List (Execution Float))).map
          (fun attempts =>
            (attempts.head?.map fun last => (last.item.status, last.recorder.size),
              reference? attempts.tail))
        = some (some (some (.http 304), 29), some 21) := by
    decide +kernel
  obtain ⟨attempts, made, told⟩ := Option.map_eq_some_iff.mp outcome
  obtain ⟨ends, reference⟩ := Prod.mk.inj told
  obtain ⟨execution, last, ending⟩ := Option.map_eq_some_iff.mp ends
  obtain ⟨status, size⟩ := Prod.mk.inj ending
  obtain ⟨earlier, rfl⟩ : ∃ earlier, attempts = execution :: earlier :=
    List.head?_eq_some_iff.mp last
  have fresh := CrawlItem.isFresh_new url
  have attempted := areAttempts_of_attemptAll? made
  obtain ⟨contentSize, referred⟩ :=
    AreAttempts.size_of_notModified fresh rfl attempted status
  refine ⟨execution, earlier, made, fresh, rfl, attempted, status, ?_, ?_⟩
  · rw [contentSize, size, show reference? earlier = some 21 from reference]
    rfl
  · rw [referred, show reference? earlier = some 21 from reference]
    rfl

/-- Where no attempt has brought any content, the first response that nothing has changed is taken
for content: its snapshot refers to its own bytes, and the second such response counts them.
-/
theorem AreAttempts.size_of_notModified_unfounded
    : let url : Url :=
        ⟨"http", "", none, true, some (.domain "a"), none, .segments ["x"], none, none⟩
      let occasion : Occasion :=
        ⟨⟨FetchConfig.standard, .empty, ⟨[]⟩⟩, .empty,
          [⟨0, .response ⟨304, .http11, .empty⟩ []⟩], ⟨0, 0⟩, 0, none⟩
      ∃ first second : Execution Float,
        attemptAll? (.new url) [occasion, occasion] = some [second, first]
        ∧ AreAttempts (.new url) [second, first]
        ∧ (CrawlItem.new url).snapshots = []
        ∧ first.item.status = some (.http 304)
        ∧ [first].find? (·.isFull) = none
        ∧ second.item.status = some (.http 304)
        ∧ first.item.latest?.bind (·.referenceLength) ≠ none
        ∧ second.item.contentSize ≠ second.recorder.size + 0
        ∧ second.item.latest?.bind (·.referenceLength) ≠ none := by
  intro url occasion
  have outcome
      : (attemptAll? (.new url) [occasion, occasion] : Option (List (Execution Float))).map
          (·.map fun attempt =>
            (attempt.item.status, attempt.recorder.size, attempt.item.contentSize,
              attempt.item.latest?.bind (·.referenceLength)))
        = some
            [(some (.http 304), 29, 29 + 29, some 29), (some (.http 304), 29, 29, some 29)] := by
    decide +kernel
  obtain ⟨attempts, made, told⟩ := Option.map_eq_some_iff.mp outcome
  obtain ⟨second, rest, rfl, last, told⟩ := List.map_eq_cons_iff.mp told
  obtain ⟨first, rest, rfl, start, told⟩ := List.map_eq_cons_iff.mp told
  obtain rfl := List.map_eq_nil_iff.mp told
  simp only [Prod.mk.injEq] at last start
  obtain ⟨status, size, contentSize, reference⟩ := last
  obtain ⟨firstStatus, -, -, firstReference⟩ := start
  refine ⟨first, second, made, areAttempts_of_attemptAll? made, rfl, firstStatus, ?_, status, ?_,
    ?_, ?_⟩
  · simp [Execution.isFull, Execution.isNotModified, firstStatus, FetchStatus.isNotModified]
  · simp [firstReference]
  · simp [contentSize, size]
  · simp [reference]

end WebHarvest.Fetch
