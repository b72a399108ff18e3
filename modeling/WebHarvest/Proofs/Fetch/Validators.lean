import WebHarvest.Proofs.Fetch.Authorization
import WebHarvest.Proofs.Fetch.Series

/-! The validators of a request: they come from the responses to earlier attempts on the same item,
back to the last one that brought its content. That content need not be whole: the remark on it
tells whether it is.
-/

namespace WebHarvest.Fetch

open Calendar (Timestamp)
open Recording (Tokens)

variable {α : Type}

-----------------------------------------------------------------------------------------
-- The attempts that vouch for content
-----------------------------------------------------------------------------------------

/-- Of attempts, the last one first, those whose responses vouch for the content that the next one
may ask about: the last one that brought content, and those after it that said that nothing had
changed. An attempt without a snapshot counts for nothing.
-/
def vouching (earlier : List (Execution α)) : List (Execution α) :=
  (earlier.filter (·.hasSnapshot)).takeWhile (·.isNotModified)
    ++ (earlier.find? (·.isFull)).toList

theorem vouching_cons_of_unseen {last : Execution α} (unseen : last.hasSnapshot = false)
    (earlier : List (Execution α))
    : vouching (last :: earlier) = vouching earlier := by
  simp [vouching, Execution.isFull, unseen]

theorem vouching_cons_of_full {last : Execution α} (full : last.isFull = true)
    (earlier : List (Execution α))
    : vouching (last :: earlier) = [last] := by
  have brought := full
  simp only [Execution.isFull, Bool.and_eq_true, Bool.not_eq_true'] at brought
  simp [vouching, full, brought.1, brought.2]

theorem vouching_cons_of_notModified {last : Execution α} (seen : last.hasSnapshot = true)
    (notModified : last.isNotModified = true) (earlier : List (Execution α))
    : vouching (last :: earlier) = last :: vouching earlier := by
  simp [vouching, Execution.isFull, seen, notModified]

/-- Each of them is one of the attempts and has left a snapshot. -/
theorem mem_of_mem_vouching {source : Execution α} {earlier : List (Execution α)}
    (vouches : source ∈ vouching earlier)
    : source ∈ earlier ∧ source.hasSnapshot = true := by
  rcases List.mem_append.mp vouches with unchanged | base
  · exact List.mem_filter.mp (List.takeWhile_subset _ unchanged)
  · have found := Option.mem_toList.mp base
    have full := List.find?_some found
    exact ⟨List.mem_of_find?_eq_some found, (Bool.and_eq_true_iff.mp full).1⟩

-----------------------------------------------------------------------------------------
-- The validators in the latest snapshot
-----------------------------------------------------------------------------------------

/-- A part of snapshots is a validator: the text of a response field, or what the snapshot before
has if the response says that nothing has changed and lacks the field.
-/
def IsValidator (part : FetchSnapshot → Option String) (name : String) : Prop :=
  ∀ (item : CrawlItem) (status : FetchStatus) (wall : Timestamp),
    part (item.snapshot status wall)
    = (item.responseField? name).or
        ((if status.isNotModified then item.latest? else none).bind part)

theorem isValidator_etag : IsValidator (·.etag) "etag" :=
  fun _ _ _ => rfl

theorem isValidator_lastModified : IsValidator (·.lastModified) "last-modified" :=
  fun _ _ _ => rfl

/-- The text of a validator that the attempts so far offer to the next one. -/
def offered? (name : String) (earlier : List (Execution α)) : Option String :=
  (vouching earlier).findSome? (·.item.responseField? name)

variable {part : FetchSnapshot → Option String} {name : String} {item : CrawlItem}

theorem Continues.validator_eq {before : CrawlItem} {size code keep : Nat} {wall : Timestamp}
    (continues : Continues before item size code keep wall) (validator : IsValidator part name)
    (leaves : Fetcher.leavesSnapshot code = true)
    : item.latest?.bind part
      = (item.responseField? name).or
          (if item.status.any (·.isNotModified) then before.latest?.bind part else none) := by
  rw [continues.latest?_eq leaves, Option.bind_some, validator, continues.status, Option.any_some]
  split
  · rfl
  · rfl

/-- Whatever the attempts so far, a validator of the latest snapshot is what those offer that vouch
for the content. The induction is on the attempts.
-/
theorem AreAttempts.validator_readyAfter [Tokens α] {attempts : List (Execution α)}
    (validator : IsValidator part name) (fresh : item.IsFresh) (unfetched : item.snapshots = [])
    (attempted : AreAttempts item attempts)
    : (readyAfter item attempts).latest?.bind part = offered? name attempts := by
  induction attempted with
  | nothing => simp [readyAfter, CrawlItem.latest?, unfetched, offered?, vouching]
  | @another earlier last before occasion executed ih =>
      change last.item.latest?.bind part = offered? name (last :: earlier)
      rcases snapshot_of_attempt? (isFresh_readyAfter fresh earlier) executed with
        ⟨code, seen, leaves, continues⟩ | ⟨unseen, same⟩
      · rw [continues.validator_eq validator leaves, ← Execution.isNotModified, ih]
        cases notModified : last.isNotModified with
        | false =>
            have full : last.isFull = true := by simp [Execution.isFull, seen, notModified]
            simp [offered?, vouching_cons_of_full full]
        | true =>
            rw [offered?, offered?, vouching_cons_of_notModified seen notModified,
              List.findSome?_cons]
            cases last.item.responseField? name <;> rfl
      · rw [offered?, vouching_cons_of_unseen unseen, same, ih, offered?]

-----------------------------------------------------------------------------------------
-- The validators of a request
-----------------------------------------------------------------------------------------

/-- A field that has no value gets that of the text, if the text is one. -/
theorem values_insertText {headers : Http.Headers} (unset : headers.values name = [])
    (text : Option String)
    : (insertText headers name text).values name = (text.bind Http.headerValue?).toList := by
  unfold insertText
  cases text.bind Http.headerValue? with
  | none => exact unset
  | some value => simp [Http.Headers.values_insert]

section Request

variable (fetcher : Fetcher) (servers : Access.ServerCache) (limits : Recording.Limits)

/-- A credential is presented in a field of its own. -/
theorem values_request_of_ne (different : name ≠ "authorization")
    : (fetcher.request servers item limits).1.headers.values name
      = (fetcher.openFields item limits).values name := by
  unfold Fetcher.request
  cases Fetcher.credential? servers item with
  | none => rfl
  | some credential => exact Http.Headers.values_insert_of_ne different _ _

theorem values_request_ifNoneMatch (unnamed : fetcher.acceptFields.values "if-none-match" = [])
    : (fetcher.request servers item limits).1.headers.values "if-none-match"
      = ((if fetcher.config.sendIfNoneMatch then item.latest?.bind (·.etag)
          else none).bind Http.headerValue?).toList := by
  rw [values_request_of_ne fetcher servers limits (by decide), Fetcher.openFields,
    FetchConfig.addValidators]
  apply values_insertText
  simp only [values_insertText_of_ne (by decide : "if-none-match" ≠ "if-modified-since"),
    values_insertText_of_ne (by decide : "if-none-match" ≠ "range"),
    values_insertText_of_ne (by decide : "if-none-match" ≠ "referer"),
    values_insertText_of_ne (by decide : "if-none-match" ≠ "user-agent"),
    values_insertWhen_of_ne (by decide : "if-none-match" ≠ "connection"),
    values_insertWhen_of_ne (by decide : "if-none-match" ≠ "accept-encoding"), unnamed]

theorem values_request_ifModifiedSince
    (unnamed : fetcher.acceptFields.values "if-modified-since" = [])
    : (fetcher.request servers item limits).1.headers.values "if-modified-since"
      = ((if fetcher.config.sendIfModifiedSince then item.latest?.bind (·.lastModified)
          else none).bind Http.headerValue?).toList := by
  rw [values_request_of_ne fetcher servers limits (by decide), Fetcher.openFields,
    FetchConfig.addValidators,
    values_insertText_of_ne (by decide : "if-modified-since" ≠ "if-none-match")]
  apply values_insertText
  simp only [values_insertText_of_ne (by decide : "if-modified-since" ≠ "range"),
    values_insertText_of_ne (by decide : "if-modified-since" ≠ "referer"),
    values_insertText_of_ne (by decide : "if-modified-since" ≠ "user-agent"),
    values_insertWhen_of_ne (by decide : "if-modified-since" ≠ "connection"),
    values_insertWhen_of_ne (by decide : "if-modified-since" ≠ "accept-encoding"), unnamed]

end Request

-----------------------------------------------------------------------------------------
-- What is known of the content that is asked about
-----------------------------------------------------------------------------------------

/-- What vouches for content is a response that was recorded to some extent. The item has a remark
on it exactly if that was not all.
-/
structure Execution.IsSource (source : Execution α) : Prop where
  answered : source.state ≠ .connectFailed
  kept : source.state ≠ .connectLost
  whole : source.state = .completed ↔ source.item.annotations = []

theorem isSource_of_tells {execution : Execution α} {before : CrawlItem}
    {head? : Option Http.ResponseHead} (tells : execution.Tells before head?)
    (seen : execution.hasSnapshot = true)
    : execution.IsSource := by
  have ended {status : FetchStatus} (failure : status.http? = none)
      (givenUp : execution.IsGivenUp before status)
      : execution.IsSource := by
    simp [Execution.hasSnapshot, givenUp.status, failure] at seen
  unfold Execution.Tells at tells
  split at tells
  case h_1 => exact ended rfl tells
  case h_2 => exact ended rfl tells
  case h_7 => exact tells.elim
  all_goals
    rename_i state
    exact {
      answered := by simp [state]
      kept := by simp [state]
      whole := by simp [state, tells.annotations]
    }

theorem AreAttempts.isSource [Tokens α] {attempts : List (Execution α)} (fresh : item.IsFresh)
    (attempted : AreAttempts item attempts)
    : ∀ source ∈ attempts, source.hasSnapshot = true → source.IsSource := by
  induction attempted with
  | nothing => simp
  | @another earlier last before occasion executed ih =>
      intro source member seen
      rcases List.mem_cons.mp member with rfl | among
      · obtain ⟨-, tells⟩ := tells_of_execute? (isFresh_readyAfter fresh earlier) executed
        exact isSource_of_tells tells seen
      · exact ih source among seen

/-- Whatever attempts were made on an item that began without a snapshot, the next request has the
validators that those offer that vouch for the content, as far as they are to be sent, and no
others. All of these were recorded, and whole if the item had no remark.
-/
theorem AreAttempts.validators_of_request [Tokens α] {earlier : List (Execution α)}
    (fresh : item.IsFresh) (unfetched : item.snapshots = [])
    (attempted : AreAttempts item earlier) (occasion : Occasion)
    (unnamed
      : ∀ name ∈ ["if-none-match", "if-modified-since"],
          occasion.fetcher.acceptFields.values name = [])
    : let config := occasion.fetcher.config
      let headers := (occasion.request (readyAfter item earlier)).headers
      headers.values "if-none-match"
        = ((if config.sendIfNoneMatch then offered? "etag" earlier
            else none).bind Http.headerValue?).toList
      ∧ headers.values "if-modified-since"
        = ((if config.sendIfModifiedSince then offered? "last-modified" earlier
            else none).bind Http.headerValue?).toList
      ∧ ∀ source ∈ vouching earlier, source.IsSource := by
  have etag := attempted.validator_readyAfter isValidator_etag fresh unfetched
  have lastModified := attempted.validator_readyAfter isValidator_lastModified fresh unfetched
  refine ⟨?_, ?_, ?_⟩
  · rw [← etag]
    exact values_request_ifNoneMatch _ _ _ (unnamed _ (by simp))
  · rw [← lastModified]
    exact values_request_ifModifiedSince _ _ _ (unnamed _ (by simp))
  · intro source vouches
    obtain ⟨member, seen⟩ := mem_of_mem_vouching vouches
    exact attempted.isSource fresh source member seen

/-- After content with a tag, a response that nothing has changed with a new tag, and one that asks
for credentials, the next request asks for what does not have the new tag; and both responses that
vouch for the content were recorded whole.
-/
theorem AreAttempts.validators_of_request_renewed
    : let url : Url :=
        ⟨"http", "", none, true, some (.domain "a"), none, .segments ["x"], none, none⟩
      let fetcher : Fetcher := ⟨FetchConfig.standard, .empty, ⟨[]⟩⟩
      let tagged (tag : String) : Http.Headers := Http.Headers.empty.insert "etag" (Text.utf8 tag)
      let occasion (status : Nat) (headers : Http.Headers) : Occasion :=
        ⟨fetcher, .empty, [⟨0, .response ⟨status, .http11, headers⟩ []⟩], ⟨0, 0⟩, 0, none⟩
      ∃ earlier : List (Execution Float),
        attemptAll? (.new url)
            [occasion 401 .empty, occasion 304 (tagged "2"), occasion 200 (tagged "1")]
          = some earlier
        ∧ (CrawlItem.new url).IsFresh
        ∧ (CrawlItem.new url).snapshots = []
        ∧ AreAttempts (.new url) earlier
        ∧ (∀ name ∈ ["if-none-match", "if-modified-since"],
            fetcher.acceptFields.values name = [])
        ∧ ((occasion 200 .empty).request (readyAfter (.new url) earlier)).headers.values
            "if-none-match"
          = [Text.utf8 "2"]
        ∧ (vouching earlier).length = 2
        ∧ ∀ source ∈ vouching earlier, source.IsSource := by
  intro url fetcher tagged occasion
  have outcome
      : (attemptAll? (.new url)
            [occasion 401 .empty, occasion 304 (tagged "2"), occasion 200 (tagged "1")]
          : Option (List (Execution Float))).map
          (fun attempts => (offered? "etag" attempts, (vouching attempts).length))
        = some (some "2", 2) := by
    decide +kernel
  obtain ⟨earlier, made, told⟩ := Option.map_eq_some_iff.mp outcome
  obtain ⟨offered, length⟩ := Prod.mk.inj told
  have fresh := CrawlItem.isFresh_new url
  have attempted := areAttempts_of_attemptAll? made
  have unnamed
      : ∀ name ∈ ["if-none-match", "if-modified-since"], fetcher.acceptFields.values name = [] := by
    decide
  obtain ⟨sent, -, sources⟩ :=
    AreAttempts.validators_of_request fresh rfl attempted (occasion 200 .empty) unnamed
  refine ⟨earlier, made, fresh, rfl, attempted, unnamed, ?_, length, sources⟩
  rw [sent, offered]
  decide +kernel

/-- The tag of content that was cut off at the greatest length is sent all the same. -/
theorem AreAttempts.validators_of_request_truncated
    : let url : Url :=
        ⟨"http", "", none, true, some (.domain "a"), none, .segments ["x"], none, none⟩
      let fetcher : Fetcher := ⟨{ FetchConfig.standard with maxLength := 32 }, .empty, ⟨[]⟩⟩
      let occasion : Occasion :=
        ⟨fetcher, .empty,
          [⟨0, .response ⟨200, .http11, Http.Headers.empty.insert "etag" (Text.utf8 "1")⟩
            [.chunk (Text.utf8 "hello world")]⟩],
          ⟨0, 0⟩, 0, none⟩
      ∃ first : Execution Float,
        attemptAll? (.new url) [occasion] = some [first]
        ∧ AreAttempts (.new url) [first]
        ∧ (CrawlItem.new url).snapshots = []
        ∧ (occasion.request (readyAfter (.new url) [first])).headers.values "if-none-match" ≠ []
        ∧ [first].find? (·.isFull) = some first
        ∧ first.state ≠ .completed := by
  intro url fetcher occasion
  have outcome
      : (attemptAll? (.new url) [occasion] : Option (List (Execution Float))).map
          (fun attempts =>
            ((occasion.request (readyAfter (.new url) attempts)).headers.values "if-none-match",
              attempts.map fun attempt => (attempt.isFull, attempt.state)))
        = some ([Text.utf8 "1"], [(true, .lengthTruncated)]) := by
    decide +kernel
  obtain ⟨attempts, made, told⟩ := Option.map_eq_some_iff.mp outcome
  obtain ⟨sent, ends⟩ := Prod.mk.inj told
  obtain ⟨first, rest, rfl, last, ends⟩ := List.map_eq_cons_iff.mp ends
  obtain rfl := List.map_eq_nil_iff.mp ends
  obtain ⟨full, state⟩ := Prod.mk.inj last
  refine ⟨first, made, areAttempts_of_attemptAll? made, rfl, ?_, ?_, ?_⟩
  · rw [sent]
    simp
  · simp [full]
  · simp [state]

end WebHarvest.Fetch
