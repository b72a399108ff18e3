import Mathlib.Data.List.Induction
import Mathlib.Logic.Function.Basic
import WebHarvest.Proofs.Archive.Decision

/-! Archiving items one after another: what comes of each, how the outcomes under one key belong
together, and how often each decision is to be expected.
-/

namespace WebHarvest.Archive

open Calendar (Timestamp)

-----------------------------------------------------------------------------------------
-- Items that are archived one after another
-----------------------------------------------------------------------------------------

/-- An item is archived at some time on the wall. -/
structure Call where
  item : Nat
  wall : Timestamp
  deriving DecidableEq

/-- An item before and after it was archived, and what was decided. -/
structure Outcome where
  before : CrawlItem
  decision : Decision
  after : CrawlItem

/-- The key of the item, if it takes part in deduplication. -/
def Outcome.key? (byLength : Bool) (outcome : Outcome) : Option CaptureKey :=
  outcome.before.dedupKey? byLength

/-- Items by number, what archiving them changes besides, and what came of it so far. -/
structure Session where
  items : Nat → CrawlItem
  archiving : Archiving
  outcomes : List Outcome

namespace Session

/-- Items of which none was archived, with an empty history. -/
def start (items : Nat → CrawlItem) (ids : IdSource) : Session :=
  ⟨items, ⟨.empty, ids⟩, []⟩

/-- Archives one item. -/
def archive (policy : Policy) (session : Session) (call : Call) : Session :=
  let item := session.items call.item
  let (decision, later, archiving) := process policy item call.wall session.archiving
  { items := Function.update session.items call.item later
    archiving
    outcomes := session.outcomes ++ [⟨item, decision, later⟩] }

/-- Archives items in order. An item may come more than once. -/
def archiveAll (policy : Policy) (session : Session) (calls : List Call) : Session :=
  calls.foldl (archive policy) session

theorem archiveAll_concat (policy : Policy) (session : Session) (calls : List Call) (call : Call)
    : session.archiveAll policy (calls ++ [call])
      = (session.archiveAll policy calls).archive policy call := by
  simp [archiveAll]

end Session

-----------------------------------------------------------------------------------------
-- The outcomes under one key
-----------------------------------------------------------------------------------------

/-- An item became the response that an entry tells of. -/
structure Outcome.CapturedAs (outcome : Outcome) (entry : CaptureEntry) (record : ArchiveRecord)
    : Prop where
  decision : outcome.decision = .response
  principal : outcome.after.records.principal? = some record
  type : record.type = .response
  begun : outcome.before.begun = some entry.date
  url : entry.url = outcome.before.url.text ∧ record.url = outcome.before.url.text
  date : record.date = entry.date.warcDate
  recordId : entry.recordId = record.id
  seenOnce : entry.seenCount = 1

/-- An item became a revisit because of an identical digest that refers to what an entry tells. -/
structure Outcome.RefersTo (outcome : Outcome) (entry : CaptureEntry) (revisit : ArchiveRecord)
    : Prop where
  decision : outcome.decision = .revisit .identicalDigest
  principal : outcome.after.records.principal? = some revisit
  refers : revisit.RefersTo entry.recordId entry.url entry.date

/-- Of the outcomes under a key the first one is the response that the entry tells of, and all later
ones refer to it.
-/
def CapturedOnce (byLength : Bool) (key : CaptureKey) (entry : CaptureEntry)
    (outcomes : List Outcome)
    : Prop :=
  ∃ before first after record,
    outcomes = before ++ first :: after
    ∧ (∀ outcome ∈ before, outcome.key? byLength ≠ some key)
    ∧ first.key? byLength = some key
    ∧ first.CapturedAs entry record
    ∧ ∀ later ∈ after,
        later.key? byLength = some key → ∃ revisit, later.RefersTo entry revisit

/-- An outcome under another key, or one that refers to the entry, changes nothing about a key. -/
theorem CapturedOnce.concat {byLength : Bool} {key : CaptureKey} {entry : CaptureEntry}
    {outcomes : List Outcome} (captured : CapturedOnce byLength key entry outcomes)
    {outcome : Outcome}
    (refers : outcome.key? byLength = some key → ∃ revisit, outcome.RefersTo entry revisit)
    : CapturedOnce byLength key entry (outcomes ++ [outcome]) := by
  obtain ⟨before, first, after, record, rfl, absent, keyed, capturedAs, later⟩ := captured
  refine ⟨before, first, after ++ [outcome], record, by simp, absent, keyed, capturedAs, ?_⟩
  intro other member
  rcases List.mem_append.mp member with earlier | last
  · exact later other earlier
  · rw [List.mem_singleton.mp last]
    exact refers

/-- The first outcome under a key, where none before it is under the key. -/
theorem CapturedOnce.first {byLength : Bool} {key : CaptureKey} {entry : CaptureEntry}
    {outcomes : List Outcome} {outcome : Outcome} {record : ArchiveRecord}
    (absent : ∀ earlier ∈ outcomes, earlier.key? byLength ≠ some key)
    (keyed : outcome.key? byLength = some key) (captured : outcome.CapturedAs entry record)
    : CapturedOnce byLength key entry (outcomes ++ [outcome]) :=
  ⟨outcomes, outcome, [], record, rfl, absent, keyed, captured, by simp⟩

/-- The entry that is made of an item tells of its response record. -/
theorem capturedAs_responseRecord {outcome : Outcome} {wall : Timestamp} {id : String}
    (settled : Fetch.IsSettled outcome.before) (decision : outcome.decision = .response)
    (principal
      : outcome.after.records.principal? = some (responseRecord outcome.before wall id))
    : outcome.CapturedAs (outcome.before.capture id wall).first
        (responseRecord outcome.before wall id) where
  decision := decision
  principal := principal
  type := rfl
  begun := by
    obtain ⟨begun, known⟩ := Option.isSome_iff_exists.mp settled.begun
    simp [known, Capture.first, CrawlItem.capture]
  url := ⟨rfl, rfl⟩
  date := rfl
  recordId := rfl
  seenOnce := rfl

-----------------------------------------------------------------------------------------
-- How often a decision is made
-----------------------------------------------------------------------------------------

variable {policy : Policy} {items : Nat → CrawlItem} {calls : List Call}

/-- The keys of the items that are called for, none where an item takes no part in deduplication. -/
def keysOf (policy : Policy) (items : Nat → CrawlItem) (calls : List Call)
    : List (Option CaptureKey) :=
  calls.map fun call => (items call.item).dedupKey? policy.keyByLength

/-- How often a decision is made: on an item without a key as the item says, and on those with
keys as a response for each key that is kept and as a revisit for all others.
-/
def expectedCount (policy : Policy) (items : Nat → CrawlItem) (calls : List Call) (kept : Nat)
    (decision : Decision)
    : Nat :=
  calls.countP (fun call =>
      (items call.item).dedupKey? policy.keyByLength = none
        ∧ keylessDecision (items call.item) = decision)
    + match decision with
      | .response => kept
      | .revisit .identicalDigest => (keysOf policy items calls).countP (·.isSome) - kept
      | .revisit .notModified | .skipped => 0

namespace Session

/-- One more decision adds one to its own count, and to no other. -/
theorem countP_decision_concat (outcomes : List Outcome) (last : Outcome) (decision : Decision)
    : (outcomes ++ [last]).countP (·.decision = decision)
      = outcomes.countP (·.decision = decision) + if last.decision = decision then 1 else 0 := by
  by_cases same : last.decision = decision <;> simp [same]

/-- An item with a key adds one to those with keys. -/
theorem countP_keysOf_of_keyed {call : Call} {key : CaptureKey}
    (keyed : (items call.item).dedupKey? policy.keyByLength = some key)
    : (keysOf policy items (calls ++ [call])).countP (·.isSome)
      = (keysOf policy items calls).countP (·.isSome) + 1 := by
  simp [keysOf, keyed]

/-- An item without a key adds none. -/
theorem countP_keysOf_of_keyless {call : Call}
    (keyless : (items call.item).dedupKey? policy.keyByLength = none)
    : (keysOf policy items (calls ++ [call])).countP (·.isSome)
      = (keysOf policy items calls).countP (·.isSome) := by
  simp [keysOf, keyless]

/-- An item with a key adds a response if its key is kept on top, and else a revisit. -/
theorem expectedCount_of_keyed {call : Call} {key : CaptureKey}
    (keyed : (items call.item).dedupKey? policy.keyByLength = some key) {kept : Nat}
    (fewer : kept ≤ (keysOf policy items calls).countP (·.isSome)) (decision : Decision)
    : (expectedCount policy items (calls ++ [call]) (kept + 1) decision
        = expectedCount policy items calls kept decision
          + if Decision.response = decision then 1 else 0)
      ∧ expectedCount policy items (calls ++ [call]) kept decision
        = expectedCount policy items calls kept decision
          + if Decision.revisit .identicalDigest = decision then 1 else 0 := by
  unfold expectedCount
  rw [countP_keysOf_of_keyed keyed]
  rcases decision with - | (- | -) | - <;> simp [keyed] <;> omega

/-- An item without a key adds the decision that it says. -/
theorem expectedCount_of_keyless {call : Call}
    (keyless : (items call.item).dedupKey? policy.keyByLength = none) (kept : Nat)
    (decision : Decision)
    : expectedCount policy items (calls ++ [call]) kept decision
      = expectedCount policy items calls kept decision
        + if keylessDecision (items call.item) = decision then 1 else 0 := by
  unfold expectedCount
  rw [countP_keysOf_of_keyless keyless]
  by_cases decided : keylessDecision (items call.item) = decision
  · simp [keyless, decided, Nat.add_right_comm]
  · simp [decided]

end Session

/-- The expected counts depend on which items are called for and how often, but not on the order. -/
theorem expectedCount_perm {reordered : List Call}
    (same : (calls.map (·.item)).Perm (reordered.map (·.item))) (kept : Nat)
    (decision : Decision)
    : expectedCount policy items calls kept decision
      = expectedCount policy items reordered kept decision := by
  have keyless :=
    same.countP_eq fun number =>
      (items number).dedupKey? policy.keyByLength = none
        ∧ keylessDecision (items number) = decision
  have keyed :=
    same.countP_eq fun number => ((items number).dedupKey? policy.keyByLength).isSome
  rw [List.countP_map, List.countP_map] at keyless keyed
  unfold expectedCount keysOf
  rw [List.countP_map, List.countP_map]
  rcases decision with - | (- | -) | -
  · exact keyless
  · exact keyless
  · exact congrArg₂ (fun without keys => without + (keys - kept)) keyless keyed
  · exact congrArg (· + kept) keyless

end WebHarvest.Archive
