import WebHarvest.Proofs.Fetch.Validators

/-! The snapshots of an item: attempt after attempt, those that leave one are listed with the last
one first, as many of them as are to be kept. What a snapshot tells comes from the response to its
attempt, and from the snapshot before if that response says that nothing has changed. The next
request has the validators of the first snapshot as they were read.
-/

namespace WebHarvest.Fetch

open Calendar (Timestamp)
open Recording (Recorder Tokens)

variable {α : Type}

-----------------------------------------------------------------------------------------
-- What a snapshot tells
-----------------------------------------------------------------------------------------

/-- The response that an attempt leaves a snapshot of: it was obtained, its connection was not lost,
and it asks for no credentials.
-/
def remembered? (occasion : Occasion) (execution : Execution α) : Option Http.ResponseHead :=
  if execution.state = .connectLost then none
  else
    ((obtained? occasion.now occasion.cancelAt occasion.replies.head?).map (·.1)).filter
      fun head => head.status ≠ 401 && head.status ≠ 407

/-- The snapshot before, if the response says that nothing has changed. -/
def carried? (head : Http.ResponseHead) (previous : Option FetchSnapshot)
    : Option FetchSnapshot :=
  if head.status = 304 then previous else none

/-- A snapshot tells of an attempt that has left an item, of its response, and of the snapshot
before.
-/
structure TellsOf (snapshot : FetchSnapshot) (item : CrawlItem) (head : Http.ResponseHead)
    (previous : Option FetchSnapshot)
    : Prop where
  status : snapshot.status = head.status
  fetchedAt : item.begun = some snapshot.fetchedAt
  etag
    : snapshot.etag
      = (head.headers.first? "etag").or ((carried? head previous).bind (·.etag))
  lastModified
    : snapshot.lastModified
      = (head.headers.first? "last-modified").or
          ((carried? head previous).bind (·.lastModified))
  digest : snapshot.digest = ((carried? head previous).map (·.digest)).getD item.digest

/-- Snapshots are all that attempts have left, of both the last one first. -/
inductive AreSnapshots : List (Occasion × Execution α) → List FetchSnapshot → Prop
  | nothing : AreSnapshots [] []
  | unseen {occasion execution earlier snapshots} (before : AreSnapshots earlier snapshots)
      (nothing : remembered? occasion execution = none)
    : AreSnapshots ((occasion, execution) :: earlier) snapshots
  | seen {occasion execution earlier snapshots snapshot head}
      (before : AreSnapshots earlier snapshots)
      (remembered : remembered? occasion execution = some head)
      (tells : TellsOf snapshot execution.item head snapshots.head?)
    : AreSnapshots ((occasion, execution) :: earlier) (snapshot :: snapshots)

-----------------------------------------------------------------------------------------
-- What one attempt adds
-----------------------------------------------------------------------------------------

variable {occasion : Occasion} {before : CrawlItem} {execution : Execution α}

theorem response_landRecorded {launch : Launch} (undecided : launch.item.status = none)
    (fetcher : Fetcher) (recorder : Recorder α) (head : Http.ResponseHead) (extent : Extent)
    (wall : Timestamp) (shared : Shared)
    : (fetcher.landRecorded launch recorder head extent wall shared).1.response
      = some ⟨head.status, head.headers⟩ := by
  obtain ⟨_, _, _, _, _, shape⟩ :=
    landRecorded_shape fetcher launch recorder head extent wall shared
  rw [shape, remarked_eq undecided]

/-- An item has the response that came of its request, unless the connection was lost. -/
theorem response_of_attempt? [Tokens α] (fresh : before.IsFresh)
    (executed : occasion.attempt? before = some execution) {head : Http.ResponseHead}
    (obtained
      : (obtained? occasion.now occasion.cancelAt occasion.replies.head?).map (·.1) = some head)
    (kept : execution.state ≠ .connectLost)
    : execution.item.response = some ⟨head.status, head.headers⟩ := by
  obtain ⟨landed, -⟩ := landed_of_execute? executed
  obtain ⟨-, undecided⟩ := fresh.isUnderWay_setBegun occasion.wall
  have isOf
      : (Transfer.run occasion.fetcher.config
          (occasion.fetcher.launch occasion.shared.servers before occasion.wall occasion.now)
          occasion.cancelAt occasion.replies.head? : Transfer α).ending.IsOf (some head) := by
    rw [← obtained]
    exact Transfer.ending_run_isOf _ _ _ _
  obtain ⟨_, ending, -⟩ | ⟨_, _, -, -, -, state⟩ | ⟨other, extent, ending, made, -⟩ :=
    cases_of_land? landed
  · rw [ending] at isOf
    cases isOf
  · exact absurd state kept
  · rw [ending] at isOf
    obtain rfl : head = other := Option.some.inj isOf
    have same : execution.item = _ := (congrArg (·.1) made).symm
    rw [same]
    exact response_landRecorded undecided _ _ _ _ _ _

/-- An attempt has ended with the status of the response that was obtained, or with a failure: then
no response was obtained, or its connection was lost.
-/
theorem Execution.Tells.answered_or_failed {head? : Option Http.ResponseHead}
    (tells : execution.Tells before head?)
    : (∃ head,
        head? = some head
        ∧ execution.state ≠ .connectLost
        ∧ execution.item.status = some (.http head.status))
      ∨ ((head? = none ∨ execution.state = .connectLost)
        ∧ execution.item.status.bind FetchStatus.http? = none) := by
  unfold Tells at tells
  split at tells
  case h_1 => exact .inr ⟨.inl rfl, by rw [tells.status]; rfl⟩
  case h_2 state => exact .inr ⟨.inr state, by rw [tells.status]; rfl⟩
  case h_7 => exact tells.elim
  all_goals
    rename_i head state
    exact .inl ⟨head, rfl, by simp [state], tells.status⟩

theorem isNotModified_iff {code : Nat}
    : (FetchStatus.http code).isNotModified = true ↔ code = 304 := by
  unfold FetchStatus.isNotModified
  split <;> simp_all

/-- A snapshot of an item tells of what is on the item, and of the snapshot that was the first. -/
theorem tellsOf_snapshot {item : CrawlItem} {head : Http.ResponseHead} {wall : Timestamp}
    (begun : item.begun = some wall)
    (response : item.response = some ⟨head.status, head.headers⟩)
    (snapshots : List FetchSnapshot)
    : TellsOf (({ item with snapshots } : CrawlItem).snapshot (.http head.status) wall) item head
        snapshots.head? := by
  have carried
      : (if (FetchStatus.http head.status).isNotModified then snapshots.head? else none)
        = carried? head snapshots.head? := by
    simp only [isNotModified_iff, carried?]
  exact {
    status := rfl
    fetchedAt := by simp [CrawlItem.snapshot, begun]
    etag := by
      rw [← carried]
      simp [CrawlItem.snapshot, CrawlItem.responseField?, CrawlItem.latest?, response]
    lastModified := by
      rw [← carried]
      simp [CrawlItem.snapshot, CrawlItem.responseField?, CrawlItem.latest?, response]
    digest := by
      rw [← carried]
      simp only [CrawlItem.snapshot, CrawlItem.latest?]
      cases (if (FetchStatus.http head.status).isNotModified then snapshots.head? else none) <;>
        rfl
  }

/-- An attempt puts a snapshot of the response in front of those before, or leaves them as they are,
by cases of how it has ended.
-/
theorem snapshots_of_attempt? [Tokens α] (fresh : before.IsFresh)
    (executed : occasion.attempt? before = some execution)
    : (∃ head snapshot,
        remembered? occasion execution = some head
        ∧ TellsOf snapshot execution.item head before.latest?
        ∧ execution.item.snapshots
          = (snapshot :: before.snapshots).take
              (max occasion.fetcher.config.snapshotsKept 1))
      ∨ (remembered? occasion execution = none
        ∧ execution.item.snapshots = before.snapshots) := by
  obtain ⟨timed, tells⟩ := tells_of_execute? fresh executed
  rcases tells.answered_or_failed with ⟨head, obtained, kept, status⟩ | ⟨unobtained, failed⟩
  · have remembered
        : remembered? occasion execution
          = if Fetcher.leavesSnapshot head.status then some head else none := by
      rw [remembered?, if_neg kept, obtained]
      simp [Option.filter, Fetcher.leavesSnapshot, bne]
    rcases continues_of_attempt? fresh executed with ⟨code, continues⟩ | ⟨unanswered, -⟩
    · obtain rfl : head.status = code := by simpa [status] using continues.status
      cases leaves : Fetcher.leavesSnapshot head.status with
      | true =>
          have response := response_of_attempt? fresh executed obtained kept
          exact .inl ⟨head, _, by rw [remembered, if_pos leaves],
            tellsOf_snapshot timed.begun response before.snapshots,
            by rw [continues.snapshots, if_pos leaves]⟩
      | false =>
          refine .inr ⟨by simp [remembered, leaves], ?_⟩
          simpa [leaves] using continues.snapshots
    · rw [status] at unanswered
      cases unanswered
  · rcases continues_of_attempt? fresh executed with ⟨code, continues⟩ | ⟨-, same⟩
    · rw [continues.status] at failed
      cases failed
    · refine .inr ⟨?_, same⟩
      rcases unobtained with none | lost
      · simp [remembered?, none]
      · simp [remembered?, lost]

-----------------------------------------------------------------------------------------
-- The snapshots of all attempts
-----------------------------------------------------------------------------------------

variable {item : CrawlItem} {attempts : List (Execution α)} {occasions : List Occasion}

/-- As many as are to be kept of one snapshot in front of those that were kept before. -/
theorem take_cons_take {keep : Nat} (positive : 1 ≤ keep) (snapshot : FetchSnapshot)
    (snapshots : List FetchSnapshot)
    : (snapshot :: snapshots.take keep).take (max keep 1) = (snapshot :: snapshots).take keep := by
  obtain ⟨fewer, rfl⟩ := Nat.exists_eq_add_of_le' positive
  simp [List.take_take]

/-- The snapshots of an item that began without one are the first of all that its attempts have
left, by induction on the attempts.
-/
theorem areSnapshots_of_attemptAll? [Tokens α] {keep : Nat} (positive : 1 ≤ keep)
    (fresh : item.IsFresh) (unfetched : item.snapshots = [])
    (kept : ∀ occasion ∈ occasions, occasion.fetcher.config.snapshotsKept = keep)
    (made : attemptAll? item occasions = some attempts)
    : ∃ snapshots,
        AreSnapshots (occasions.zip attempts) snapshots
        ∧ (readyAfter item attempts).snapshots = snapshots.take keep := by
  induction occasions generalizing attempts with
  | nil =>
      cases made
      exact ⟨[], .nothing, by simpa [readyAfter] using unfetched⟩
  | cons occasion earlier ih =>
      simp only [attemptAll?, Option.bind_eq_bind, Option.bind_eq_some_iff] at made
      obtain ⟨before, attempted, execution, executed, rest⟩ := made
      cases rest
      obtain ⟨snapshots, are, first⟩ :=
        ih (fun other member => kept other (List.mem_cons_of_mem _ member)) attempted
      rw [List.zip_cons_cons]
      change ∃ all : List FetchSnapshot, _ ∧ execution.item.snapshots = all.take keep
      rcases snapshots_of_attempt? (isFresh_readyAfter fresh before) executed with
        ⟨head, snapshot, remembered, tells, pushed⟩ | ⟨nothing, same⟩
      · have latest : (readyAfter item before).latest? = snapshots.head? := by
          rw [CrawlItem.latest?, first, List.head?_take, if_neg (by omega)]
        rw [latest] at tells
        rw [first, kept occasion List.mem_cons_self, take_cons_take positive] at pushed
        exact ⟨snapshot :: snapshots, .seen are remembered tells, pushed⟩
      · exact ⟨snapshots, .unseen are nothing, same.trans first⟩

-----------------------------------------------------------------------------------------
-- Validators as they were read
-----------------------------------------------------------------------------------------

/-- A text, if there is one, may be sent as the value of a field, byte for byte. -/
def IsSendable (text : Option String) : Prop :=
  text.bind Http.headerValue? = text.map Text.utf8

theorem isSendable_first? (headers : Http.Headers) (name : String)
    : IsSendable (headers.first? name) := by
  unfold IsSendable
  cases read : headers.first? name with
  | none => rfl
  | some text =>
      obtain ⟨value, -, readable⟩ := Option.bind_eq_some_iff.mp read
      obtain ⟨same, valid⟩ := Http.headerValue?_of_readable readable
      rw [Option.bind_some, Option.map_some, valid, same]

theorem IsSendable.or {text other : Option String} (sendable : IsSendable text)
    (otherwise : IsSendable other)
    : IsSendable (text.or other) := by
  cases text with
  | none => exact otherwise
  | some text => exact sendable

/-- Both validators of every snapshot may be sent, since they were read from responses. -/
theorem AreSnapshots.isSendable {made : List (Occasion × Execution α)}
    {snapshots : List FetchSnapshot} (are : AreSnapshots made snapshots)
    : ∀ snapshot ∈ snapshots,
        IsSendable snapshot.etag ∧ IsSendable snapshot.lastModified := by
  induction are with
  | nothing => simp
  | unseen before nothing ih => exact ih
  | @seen occasion execution earlier snapshots snapshot head before remembered tells ih =>
      intro other member
      rcases List.mem_cons.mp member with rfl | among
      · have carried
            : IsSendable ((carried? head snapshots.head?).bind (·.etag))
              ∧ IsSendable ((carried? head snapshots.head?).bind (·.lastModified)) := by
          cases known : carried? head snapshots.head? with
          | none => exact ⟨rfl, rfl⟩
          | some previous =>
              have first : snapshots.head? = some previous := by
                unfold carried? at known
                split at known
                · exact known
                · cases known
              exact ih previous (List.mem_of_head? first)
        rw [tells.etag, tells.lastModified]
        exact ⟨(isSendable_first? _ _).or carried.1, (isSendable_first? _ _).or carried.2⟩
      · exact ih other among

/-- A validator that is to be sent is sent as it was read. -/
theorem sent_eq {part : FetchSnapshot → Option String}
    (sendable : ∀ snapshot ∈ item.snapshots, IsSendable (part snapshot)) (enabled : Bool)
    : (if enabled then item.latest?.bind part else none).bind Http.headerValue?
      = (if enabled then item.latest?.bind part else none).map Text.utf8 := by
  cases enabled with
  | false => rfl
  | true =>
      rw [if_pos rfl]
      cases first : item.latest? with
      | none => rfl
      | some snapshot => exact sendable snapshot (List.mem_of_head? first)

/-- Whatever attempts were made on an item that began without a snapshot, while as many snapshots
as `keep` were to be kept: its snapshots are the first `keep` of all that the attempts have left, or
all of them if there are no more; and the next request has the validators of the first one, byte for
byte and as far as they are to be sent, and no others.
-/
theorem snapshots_of_attemptAll? [Tokens α] {keep : Nat} (positive : 1 ≤ keep)
    (fresh : item.IsFresh) (unfetched : item.snapshots = [])
    (kept : ∀ occasion ∈ occasions, occasion.fetcher.config.snapshotsKept = keep)
    (made : attemptAll? item occasions = some attempts)
    : ∃ snapshots,
        AreSnapshots (occasions.zip attempts) snapshots
        ∧ (readyAfter item attempts).snapshots = snapshots.take keep
        ∧ ∀ next : Occasion,
            (∀ name ∈ ["if-none-match", "if-modified-since"],
              next.fetcher.acceptFields.values name = [])
            → let config := next.fetcher.config
              let ready := readyAfter item attempts
              let headers := (next.request ready).headers
              headers.values "if-none-match"
                = ((if config.sendIfNoneMatch then ready.latest?.bind (·.etag)
                    else none).map Text.utf8).toList
              ∧ headers.values "if-modified-since"
                = ((if config.sendIfModifiedSince then ready.latest?.bind (·.lastModified)
                    else none).map Text.utf8).toList := by
  obtain ⟨snapshots, are, first⟩ := areSnapshots_of_attemptAll? positive fresh unfetched kept made
  refine ⟨snapshots, are, first, ?_⟩
  intro next unnamed config ready headers
  have sendable : ∀ snapshot ∈ ready.snapshots,
      IsSendable snapshot.etag ∧ IsSendable snapshot.lastModified := by
    intro snapshot member
    rw [first] at member
    exact are.isSendable snapshot (List.mem_of_mem_take member)
  constructor
  · rw [← sent_eq (fun snapshot member => (sendable snapshot member).1)]
    exact values_request_ifNoneMatch _ _ _ (unnamed _ (by simp))
  · rw [← sent_eq (fun snapshot member => (sendable snapshot member).2)]
    exact values_request_ifModifiedSince _ _ _ (unnamed _ (by simp))

/-- Of three snapshots the last two are kept; neither a response that asks for credentials nor one
that is lost has left any. The last one has the tag of the one before, and the next request has it
too.
-/
theorem snapshots_of_attemptAll?_carried
    : let url : Url :=
        ⟨"http", "", none, true, some (.domain "a"), none, .segments ["x"], none, none⟩
      let fetcher : Fetcher := ⟨FetchConfig.standard, .empty, ⟨[]⟩⟩
      let tagged (tag : String) : Http.Headers := Http.Headers.empty.insert "etag" (Text.utf8 tag)
      let occasion (status : Nat) (headers : Http.Headers) (body : Recording.Stream) : Occasion :=
        ⟨fetcher, .empty, [⟨0, .response ⟨status, .http11, headers⟩ body⟩], ⟨0, 0⟩, 0, none⟩
      let occasions :=
        [occasion 304 .empty [], occasion 200 .empty [.failure "gone"], occasion 401 .empty [],
          occasion 200 (tagged "2") [], occasion 200 (tagged "1") []]
      1 ≤ 2
      ∧ (CrawlItem.new url).IsFresh
      ∧ (CrawlItem.new url).snapshots = []
      ∧ (∀ occasion ∈ occasions, occasion.fetcher.config.snapshotsKept = 2)
      ∧ (∀ name ∈ ["if-none-match", "if-modified-since"], fetcher.acceptFields.values name = [])
      ∧ ∃ (attempts : List (Execution Float)) (snapshots : List FetchSnapshot),
          attemptAll? (.new url) occasions = some attempts
          ∧ AreSnapshots (occasions.zip attempts) snapshots
          ∧ (readyAfter (.new url) attempts).snapshots = snapshots.take 2
          ∧ (snapshots.take 2).map (fun snapshot => (snapshot.status, snapshot.etag))
            = [(304, some "2"), (200, some "2")]
          ∧ ((occasion 200 .empty []).request (readyAfter (.new url) attempts)).headers.values
              "if-none-match"
            = [Text.utf8 "2"] := by
  intro url fetcher tagged occasion occasions
  have outcome
      : (attemptAll? (.new url) occasions : Option (List (Execution Float))).map
          (fun attempts =>
            (readyAfter (.new url) attempts).snapshots.map fun snapshot =>
              (snapshot.status, snapshot.etag))
        = some [(304, some "2"), (200, some "2")] := by
    decide +kernel
  obtain ⟨attempts, made, listed⟩ := Option.map_eq_some_iff.mp outcome
  have fresh := CrawlItem.isFresh_new url
  have kept
      : ∀ occasion ∈ occasions, occasion.fetcher.config.snapshotsKept = 2 := by
    decide
  have unnamed
      : ∀ name ∈ ["if-none-match", "if-modified-since"], fetcher.acceptFields.values name = [] := by
    decide
  obtain ⟨snapshots, are, first, requests⟩ :=
    snapshots_of_attemptAll? (by decide) fresh rfl kept made
  obtain ⟨sent, -⟩ := requests (occasion 200 .empty []) unnamed
  have etag : (readyAfter (.new url) attempts).latest?.bind (·.etag) = some "2" := by
    obtain ⟨latest, rest, before, told, -⟩ := List.map_eq_cons_iff.mp listed
    rw [CrawlItem.latest?, before]
    exact (Prod.mk.inj told).2
  refine ⟨by decide, fresh, rfl, kept, unnamed, attempts, snapshots, made, are, first, ?_, ?_⟩
  · rw [← first]
    exact listed
  · rw [sent, etag]
    rfl

end WebHarvest.Fetch
