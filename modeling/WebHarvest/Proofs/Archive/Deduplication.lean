import Mathlib.Data.List.Perm.Basic
import WebHarvest.Proofs.Archive.Session
import WebHarvest.Proofs.Capture.Lookup

/-! Of all items with one key the first that is archived becomes a response and all others
revisits that refer to it, so that only their number and not their order decides what is stored.
-/

namespace WebHarvest.Archive

open Calendar (Timestamp)

-----------------------------------------------------------------------------------------
-- What a session keeps
-----------------------------------------------------------------------------------------

variable {policy : Policy} {items : Nat → CrawlItem} {session : Session} {calls : List Call}

/-- After some calls the items are those from the start, archived; the history has the keys of those
that were called for; and each entry tells of the first item with its key.
-/
structure Session.Follows (session : Session) (policy : Policy) (items : Nat → CrawlItem)
    (calls : List Call)
    : Prop where
  archived : ∀ number, ArchivedFrom (items number) (session.items number)
  unlooked
    : ∀ number,
        (items number).dedupKey? policy.keyByLength = none
        → (session.items number).earlierCapture = (items number).earlierCapture
  keys : session.outcomes.map (Outcome.key? policy.keyByLength) = keysOf policy items calls
  known
    : ∀ key entry,
        session.archiving.history.lookup? key = some entry
        → entry.url.isEmpty = false
          ∧ CapturedOnce policy.keyByLength key entry session.outcomes
  unknown
    : ∀ key,
        session.archiving.history.lookup? key = none
        → ∀ outcome ∈ session.outcomes, outcome.key? policy.keyByLength ≠ some key
  unique : session.archiving.history.keys.Nodup
  fewer
    : session.archiving.history.keys.length
      ≤ (keysOf policy items calls).countP (·.isSome)
  counted
    : ∀ decision,
        session.outcomes.countP (·.decision = decision)
        = expectedCount policy items calls session.archiving.history.keys.length decision

theorem Session.follows_start (policy : Policy) (items : Nat → CrawlItem) (ids : IdSource)
    : (Session.start items ids).Follows policy items [] where
  archived number := .refl _
  unlooked _ _ := rfl
  keys := rfl
  known _ _ found := by cases found
  unknown _ _ _ member := by cases member
  unique := List.nodup_nil
  fewer := Nat.le_refl 0
  counted decision := by
    rcases decision with - | (- | -) | - <;> rfl

namespace Session.Follows

/-- What one more item adds, whatever became of it: what is left to be shown is what the history
tells after it, and how its decision counts.
-/
theorem extend (follows : session.Follows policy items calls) (call : Call)
    {decision : Decision} {later : CrawlItem} {archiving : Archiving}
    (processed
      : process policy (session.items call.item) call.wall session.archiving
        = (decision, later, archiving))
    (kept : ArchivedFrom (session.items call.item) later)
    (unlooked
      : (items call.item).dedupKey? policy.keyByLength = none
        → later.earlierCapture = (session.items call.item).earlierCapture)
    (known
      : ∀ key entry,
          archiving.history.lookup? key = some entry
          → entry.url.isEmpty = false
            ∧ CapturedOnce policy.keyByLength key entry
                (session.outcomes ++ [⟨session.items call.item, decision, later⟩]))
    (unknown
      : ∀ key,
          archiving.history.lookup? key = none
          → session.archiving.history.lookup? key = none
            ∧ (session.items call.item).dedupKey? policy.keyByLength ≠ some key)
    (unique : archiving.history.keys.Nodup)
    (fewer
      : archiving.history.keys.length
        ≤ (keysOf policy items (calls ++ [call])).countP (·.isSome))
    (counted
      : ∀ other,
          expectedCount policy items (calls ++ [call]) archiving.history.keys.length other
          = expectedCount policy items calls session.archiving.history.keys.length other
            + if decision = other then 1 else 0)
    : (session.archive policy call).Follows policy items (calls ++ [call]) := by
  have result
      : session.archive policy call
        = { items := Function.update session.items call.item later
            archiving
            outcomes := session.outcomes ++ [⟨session.items call.item, decision, later⟩] } := by
    simp only [Session.archive, processed]
  rw [result]
  refine ⟨?_, ?_, ?_, known, ?_, unique, fewer, ?_⟩
  · intro number
    by_cases same : number = call.item
    · subst same
      simpa using (follows.archived _).trans kept
    · simpa [same] using follows.archived number
  · intro number keyless
    by_cases same : number = call.item
    · subst same
      simpa using (unlooked keyless).trans (follows.unlooked _ keyless)
    · simpa [same] using follows.unlooked number keyless
  · have key := (follows.archived call.item).dedupKey? policy.keyByLength
    simp [follows.keys, keysOf, Outcome.key?, key]
  · intro key absent outcome member
    obtain ⟨absentBefore, other⟩ := unknown key absent
    rcases List.mem_append.mp member with earlier | last
    · exact follows.unknown key absentBefore outcome earlier
    · rw [List.mem_singleton.mp last]
      exact other
  · intro other
    rw [counted other, ← follows.counted other]
    exact countP_decision_concat session.outcomes _ other

/-- An item without a key leaves the history alone. -/
theorem archive_of_keyless (follows : session.Follows policy items calls) (call : Call)
    (keyless : (items call.item).dedupKey? policy.keyByLength = none)
    : (session.archive policy call).Follows policy items (calls ++ [call]) := by
  have kept := follows.archived call.item
  have sameKey := (kept.dedupKey? policy.keyByLength).trans keyless
  obtain ⟨later, ids, processed, fetched, earlier⟩ :=
    process_of_keyless call.wall session.archiving sameKey
  have sameDecision
      : keylessDecision (session.items call.item) = keylessDecision (items call.item) := by
    simp only [keylessDecision, kept.isArchivable, revisitKind?, kept.status,
      follows.unlooked call.item keyless]
  refine follows.extend call processed fetched (fun _ => earlier) ?_ ?_ follows.unique ?_ ?_
  · intro key entry found
    obtain ⟨located, captured⟩ := follows.known key entry found
    refine ⟨located, captured.concat ?_⟩
    intro same
    rw [Outcome.key?, sameKey] at same
    cases same
  · intro key absent
    exact ⟨absent, by simp [sameKey]⟩
  · rw [Session.countP_keysOf_of_keyless keyless]
    exact follows.fewer
  · intro other
    rw [expectedCount_of_keyless keyless, sameDecision]

/-- The first item with a key makes the entry of the key. -/
theorem archive_of_unknown (follows : session.Follows policy items calls) (call : Call)
    (settled : Fetch.IsSettled (items call.item)) {key : CaptureKey}
    (keyed : (items call.item).dedupKey? policy.keyByLength = some key)
    (unknown : session.archiving.history.lookup? key = none)
    : (session.archive policy call).Follows policy items (calls ++ [call]) := by
  have kept := follows.archived call.item
  have settled := kept.isSettled settled
  have sameKey := (kept.dedupKey? policy.keyByLength).trans keyed
  obtain ⟨later, ids, processed, fetched, principal⟩ :=
    process_of_unknown call.wall settled sameKey unknown
  have absent : key ∉ session.archiving.history.keys := by
    simp [CaptureHistory.mem_keys_iff, unknown]
  have keys
      : (session.archiving.history.record key
          ((session.items call.item).capture session.archiving.ids.first call.wall)).2.keys
        = session.archiving.history.keys ++ [key] := by
    rw [CaptureHistory.record, CaptureHistory.keys_insert, if_neg absent]
  refine follows.extend call processed fetched ?_ ?_ ?_ ?_ ?_ ?_
  · intro keyless
    rw [keyed] at keyless
    cases keyless
  · intro other entry foundNow
    simp only [CaptureHistory.lookup?_record, unknown] at foundNow
    split at foundNow
    · rename_i same
      subst same
      cases foundNow
      exact ⟨isEmpty_text _, .first (follows.unknown other unknown) sameKey
        (capturedAs_responseRecord settled rfl principal)⟩
    · rename_i different
      obtain ⟨located, captured⟩ := follows.known other entry foundNow
      refine ⟨located, captured.concat ?_⟩
      intro same
      rw [Outcome.key?, sameKey] at same
      exact absurd (Option.some.inj same).symm different
  · intro other absentNow
    simp only [CaptureHistory.lookup?_record, unknown] at absentNow
    split at absentNow
    · cases absentNow
    · rename_i different
      exact ⟨absentNow, by simpa [sameKey] using Ne.symm different⟩
  · rw [CaptureHistory.record]
    exact CaptureHistory.nodup_keys_insert follows.unique _ _
  · rw [keys, Session.countP_keysOf_of_keyed keyed, List.length_append]
    exact Nat.add_le_add_right follows.fewer 1
  · intro other
    rw [keys, List.length_append]
    exact (expectedCount_of_keyed keyed follows.fewer other).1

/-- Each later item with the key refers to the entry. -/
theorem archive_of_known (follows : session.Follows policy items calls) (call : Call)
    (settled : Fetch.IsSettled (items call.item)) {key : CaptureKey} {entry : CaptureEntry}
    (keyed : (items call.item).dedupKey? policy.keyByLength = some key)
    (known : session.archiving.history.lookup? key = some entry)
    : (session.archive policy call).Follows policy items (calls ++ [call]) := by
  have kept := follows.archived call.item
  have settled := kept.isSettled settled
  have sameKey := (kept.dedupKey? policy.keyByLength).trans keyed
  obtain ⟨located, -⟩ := follows.known key entry known
  obtain ⟨later, ids, processed, fetched, principal⟩ :=
    process_of_known call.wall settled sameKey known located
  refine follows.extend call processed fetched ?_ ?_ ?_ follows.unique ?_ ?_
  · intro keyless
    rw [keyed] at keyless
    cases keyless
  · intro other otherEntry found
    obtain ⟨located, captured⟩ := follows.known other otherEntry found
    refine ⟨located, captured.concat ?_⟩
    intro same
    rw [Outcome.key?, sameKey] at same
    rw [Option.some.inj same, found] at known
    cases known
    exact ⟨_, rfl, principal, refersTo_identicalDigestRecord _ _ _ _⟩
  · intro other absent
    refine ⟨absent, ?_⟩
    intro same
    rw [sameKey] at same
    rw [Option.some.inj same, absent] at known
    cases known
  · rw [Session.countP_keysOf_of_keyed keyed]
    exact Nat.le_succ_of_le follows.fewer
  · intro other
    exact (expectedCount_of_keyed keyed follows.fewer other).2

/-- One more item keeps the invariant, by what is known about its key. -/
theorem archive (follows : session.Follows policy items calls) (call : Call)
    (settled : Fetch.IsSettled (items call.item))
    : (session.archive policy call).Follows policy items (calls ++ [call]) := by
  cases keyed : (items call.item).dedupKey? policy.keyByLength with
  | none => exact follows.archive_of_keyless call keyed
  | some key =>
      cases known : session.archiving.history.lookup? key with
      | none => exact follows.archive_of_unknown call settled keyed known
      | some entry => exact follows.archive_of_known call settled keyed known

end Session.Follows

/-- The invariant holds after any calls for settled items, by induction on the calls from the last
one.
-/
theorem Session.follows_archiveAll (policy : Policy) (items : Nat → CrawlItem) (ids : IdSource)
    (calls : List Call) (settled : ∀ call ∈ calls, Fetch.IsSettled (items call.item))
    : ((Session.start items ids).archiveAll policy calls).Follows policy items calls := by
  induction calls using List.reverseRecOn with
  | nil => exact follows_start policy items ids
  | append_singleton calls call ih =>
      rw [archiveAll_concat]
      refine (ih ?_).archive call (settled call (by simp))
      intro earlier member
      exact settled earlier (List.mem_append_left _ member)

-----------------------------------------------------------------------------------------
-- What is captured, in any order
-----------------------------------------------------------------------------------------

/-- The keys of the history are those of the items that were called for. -/
theorem Session.Follows.mem_keys_iff (follows : session.Follows policy items calls)
    (key : CaptureKey)
    : key ∈ session.archiving.history.keys
      ↔ ∃ call ∈ calls, (items call.item).dedupKey? policy.keyByLength = some key := by
  have outcomes
      : (∃ outcome ∈ session.outcomes, outcome.key? policy.keyByLength = some key)
        ↔ ∃ call ∈ calls, (items call.item).dedupKey? policy.keyByLength = some key := by
    have same
        : some key ∈ session.outcomes.map (Outcome.key? policy.keyByLength)
          ↔ some key ∈ keysOf policy items calls := by
      rw [follows.keys]
    simpa only [keysOf, List.mem_map] using same
  rw [CaptureHistory.mem_keys_iff, ← outcomes]
  cases found : session.archiving.history.lookup? key with
  | none =>
      simpa using follows.unknown key found
  | some entry =>
      obtain ⟨-, before, first, after, record, split, -, keyed, -⟩ :=
        follows.known key entry found
      simp only [Option.isSome_some, true_iff]
      exact ⟨first, by simp [split], keyed⟩

/-- Sessions that archive the same items in any order have the same keys. -/
theorem Session.Follows.mem_keys_perm (follows : session.Follows policy items calls)
    {again : Session} {reordered : List Call} (followsAgain : again.Follows policy items reordered)
    (same : (calls.map (·.item)).Perm (reordered.map (·.item))) (key : CaptureKey)
    : key ∈ again.archiving.history.keys ↔ key ∈ session.archiving.history.keys := by
  rw [followsAgain.mem_keys_iff, follows.mem_keys_iff]
  have numbers
      : (∃ number ∈ calls.map (·.item), (items number).dedupKey? policy.keyByLength = some key)
        ↔ ∃ number ∈ reordered.map (·.item),
            (items number).dedupKey? policy.keyByLength = some key := by
    simp only [same.mem_iff]
  simpa using numbers.symm

/-- They make each decision as often, since each key that is kept counts for one response. -/
theorem Session.Follows.countP_decision_perm (follows : session.Follows policy items calls)
    {again : Session} {reordered : List Call} (followsAgain : again.Follows policy items reordered)
    (same : (calls.map (·.item)).Perm (reordered.map (·.item))) (decision : Decision)
    : again.outcomes.countP (·.decision = decision)
      = session.outcomes.countP (·.decision = decision) := by
  have sameKeys := follows.mem_keys_perm followsAgain same
  have sameSize := ((List.perm_ext_iff_of_nodup followsAgain.unique follows.unique).mpr
    sameKeys).length_eq
  rw [followsAgain.counted, follows.counted, sameSize, expectedCount_perm same]

/-- Of all attempted items with one key the first that is archived becomes a response, and all
later ones, the same item archived again among them, become revisits that refer to the record of
that response. The history has exactly the keys of the items, each once and with a count of one.
Archiving the same items in another order, at other times and with other identifiers, makes each
decision as often and keeps the same keys.
-/
theorem Session.archiveAll_capturesOnce (policy : Policy) (items : Nat → CrawlItem)
    (ids : IdSource) (calls : List Call)
    (attempted : ∀ call ∈ calls, ∃ start, Fetch.IsAttempted start (items call.item))
    : let session := (start items ids).archiveAll policy calls
      let history := session.archiving.history
      session.outcomes.map (Outcome.key? policy.keyByLength)
        = calls.map (fun call => (items call.item).dedupKey? policy.keyByLength)
      ∧ (∀ call ∈ calls,
          ∀ key,
            (items call.item).dedupKey? policy.keyByLength = some key
            → ∃ entry,
                history.lookup? key = some entry
                ∧ CapturedOnce policy.keyByLength key entry session.outcomes)
      ∧ history.keys.Nodup
      ∧ (∀ key,
          key ∈ history.keys
          ↔ ∃ call ∈ calls, (items call.item).dedupKey? policy.keyByLength = some key)
      ∧ (∀ kept ∈ history.entries, kept.2.seenCount = 1)
      ∧ ∀ (other : IdSource) (reordered : List Call),
          (calls.map (·.item)).Perm (reordered.map (·.item))
          → let again := (start items other).archiveAll policy reordered
            (∀ decision,
                again.outcomes.countP (·.decision = decision)
                = session.outcomes.countP (·.decision = decision))
            ∧ ∀ key, key ∈ again.archiving.history.keys ↔ key ∈ history.keys := by
  intro session history
  have settled (call) (member : call ∈ calls) : Fetch.IsSettled (items call.item) := by
    obtain ⟨start, attempt⟩ := attempted call member
    exact attempt.settles.1
  have follows := follows_archiveAll policy items ids calls settled
  refine ⟨follows.keys, ?_, follows.unique, follows.mem_keys_iff, ?_, ?_⟩
  · intro call member key keyed
    have present := (follows.mem_keys_iff key).mpr ⟨call, member, keyed⟩
    obtain ⟨entry, found⟩ :=
      Option.isSome_iff_exists.mp (CaptureHistory.mem_keys_iff.mp present)
    exact ⟨entry, found, (follows.known key entry found).2⟩
  · rintro ⟨key, entry⟩ member
    obtain ⟨-, before, first, after, record, -, -, -, captured, -⟩ :=
      follows.known key entry (CaptureHistory.lookup?_of_mem follows.unique member)
    exact captured.seenOnce
  · intro other reordered same again
    have settledAgain (call) (member : call ∈ reordered)
        : Fetch.IsSettled (items call.item) := by
      have number : call.item ∈ calls.map (·.item) :=
        same.mem_iff.mpr (List.mem_map_of_mem member)
      obtain ⟨call', member', sameItem⟩ := List.mem_map.mp number
      exact sameItem ▸ settled call' member'
    have followsAgain := follows_archiveAll policy items other reordered settledAgain
    exact ⟨follows.countP_decision_perm followsAgain same, follows.mem_keys_perm followsAgain same⟩

/-- Two items with the same content, of which the first is archived once more at the end. -/
theorem Session.archiveAll_capturesOnce_again
    : let url (path : String) : Url :=
        ⟨"http", "", none, true, some (.domain "a"), none, .segments [path], none, none⟩
      let fetcher : Fetch.Fetcher :=
        ⟨{ Fetch.FetchConfig.standard with digestAlgorithm := .md5 }, .empty, ⟨[]⟩⟩
      let attempt (path : String) : Option (Fetch.Execution Float) :=
        fetcher.execute? (.new (url path)) .empty
          [⟨0, .response ⟨200, .http11, .empty⟩ [.chunk [1]]⟩] ⟨0, 0⟩ 0 none
      let items (number : Nat) : CrawlItem :=
        ((attempt (if number = 0 then "x" else "y")).map (·.item)).getD (.new (url ""))
      let calls : List Call := [⟨0, ⟨0, 0⟩⟩, ⟨1, ⟨5, 0⟩⟩, ⟨0, ⟨7, 0⟩⟩]
      let session := (start items ⟨toString, 0⟩).archiveAll ⟨false, false⟩ calls
      (∀ call ∈ calls, ∃ start, Fetch.IsAttempted start (items call.item))
      ∧ ∃ key entry,
          (items 0).dedupKey? false = some key
          ∧ session.archiving.history.lookup? key = some entry
          ∧ CapturedOnce false key entry session.outcomes := by
  intro url fetcher attempt items calls session
  have ended (path : String) (listed : path = "x" ∨ path = "y") : (attempt path).isSome := by
    rcases listed with rfl | rfl <;> decide +kernel
  have attempted (call) (_ : call ∈ calls)
      : ∃ start, Fetch.IsAttempted start (items call.item) := by
    have listed : (if call.item = 0 then "x" else "y") = "x"
        ∨ (if call.item = 0 then "x" else "y") = "y" := by
      split <;> simp
    obtain ⟨execution, executed⟩ := Option.isSome_iff_exists.mp (ended _ listed)
    exact ⟨_, Float, inferInstance, _, _, _, _, _, _, execution, executed, by
      simp [items, executed]⟩
  obtain ⟨key, keyed⟩ : ∃ key, (items 0).dedupKey? false = some key :=
    Option.isSome_iff_exists.mp (by decide +kernel)
  obtain ⟨-, captured, -⟩ :=
    archiveAll_capturesOnce ⟨false, false⟩ items ⟨toString, 0⟩ calls attempted
  obtain ⟨entry, found, once⟩ := captured ⟨0, ⟨0, 0⟩⟩ (by simp [calls]) key keyed
  exact ⟨attempted, key, entry, keyed, found, once⟩

end WebHarvest.Archive
