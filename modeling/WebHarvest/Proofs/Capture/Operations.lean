import WebHarvest.Proofs.Capture.Storage

/-! Histories over whole runs. Whatever is recorded and looked up, and however often a history is
kept in a file and loaded again, it tells of each key the first capture recorded under it, and how
many there were.
-/

namespace WebHarvest

/-- What can be done with a history. Reloading it keeps it at a place and goes on with what is
loaded from there.
-/
inductive HistoryOperation where
  | record (key : CaptureKey) (capture : Capture)
  | lookup (key : CaptureKey)
  | reload (place : Place)
  deriving DecidableEq, Repr

/-- What an operation answers: the entry of its key, or nothing. -/
inductive HistoryAnswer where
  | told (entry : Option CaptureEntry)
  | reloaded
  deriving DecidableEq, Repr

namespace HistoryOperation

/-- Whether an operation reloads the history. -/
def isReload : HistoryOperation → Bool
  | reload _ => true
  | _ => false

/-- Performs an operation on a history. -/
def perform? (history : CaptureHistory)
    : HistoryOperation → Except HistoryError (HistoryAnswer × CaptureHistory)
  | record key capture =>
    let (entry, later) := history.record key capture
    .ok (.told (some entry), later)
  | lookup key => .ok (.told (history.lookup? key), history)
  | reload place => do
    let kept ← history.persist place
    let loaded ← CaptureHistory.load kept
    return (.reloaded, loaded)

/-- Performs operations from an empty history on, and gives their answers, of both the last one
first.
-/
def performAll?
    : List HistoryOperation → Except HistoryError (List HistoryAnswer × CaptureHistory)
  | [] => .ok ([], .empty)
  | operation :: earlier => do
    let (answers, history) ← performAll? earlier
    let (answer, later) ← operation.perform? history
    return (answer :: answers, later)

-----------------------------------------------------------------------------------------
-- What follows from the operations alone
-----------------------------------------------------------------------------------------

/-- The capture that an operation records under a key. -/
def captureOf? (key : CaptureKey) : HistoryOperation → Option Capture
  | record other capture => if other = key then some capture else none
  | _ => none

/-- The captures that operations have recorded under a key, the last one first. -/
def capturesOf (key : CaptureKey) (operations : List HistoryOperation) : List Capture :=
  operations.filterMap (captureOf? key)

/-- What operations, the last one first, leave to tell of a key: the first capture recorded under it
and the number of all of them.
-/
def told? (key : CaptureKey) (operations : List HistoryOperation) : Option CaptureEntry :=
  (capturesOf key operations).getLast?.map fun first =>
    ⟨first.url, first.date, first.recordId, (capturesOf key operations).length⟩

/-- The answers to operations, the last one first: recording tells of the key what there is to tell
afterwards, and so does looking it up.
-/
def expected : List HistoryOperation → List HistoryAnswer
  | [] => []
  | record key capture :: earlier =>
    .told (told? key (record key capture :: earlier)) :: expected earlier
  | lookup key :: earlier => .told (told? key earlier) :: expected earlier
  | reload _ :: earlier => .reloaded :: expected earlier

/-- An operation that a history allows at any time: it records a capture with a date of civil time,
or keeps the history where a file is or can be.
-/
def IsAllowed : HistoryOperation → Prop
  | record _ capture => capture.date.IsCivil
  | lookup _ => True
  | reload place => place = .vacant ∨ ∃ bytes, place = .file bytes

variable {key other : CaptureKey} {capture : Capture} {earlier operations : List HistoryOperation}

theorem capturesOf_record (key other : CaptureKey) (capture : Capture)
    (earlier : List HistoryOperation)
    : capturesOf other (record key capture :: earlier)
      = if key = other then capture :: capturesOf other earlier else capturesOf other earlier := by
  by_cases same : key = other <;> simp [capturesOf, captureOf?, same]

/-- There is nothing to tell of a key under which nothing was recorded. -/
theorem told?_eq_none_iff
    : told? key operations = none ↔ ∀ capture, record key capture ∉ operations := by
  rw [told?, Option.map_eq_none_iff, List.getLast?_eq_none_iff, capturesOf,
    List.filterMap_eq_nil_iff]
  constructor
  · intro unrecorded capture member
    simpa [captureOf?] using unrecorded _ member
  · intro absent operation member
    cases operation with
    | record other capture =>
        refine if_neg ?_
        rintro rfl
        exact absent capture member
    | lookup other => rfl
    | reload place => rfl

/-- A capture is counted up if there are others before, or else is the first. -/
theorem told?_record
    (few : (capturesOf key (record key capture :: earlier)).length < countModulus)
    : told? key (record key capture :: earlier)
      = some (((told? key earlier).map (·.again)).getD capture.first) := by
  rw [capturesOf_record, if_pos rfl, List.length_cons] at few
  unfold told?
  rw [capturesOf_record, if_pos rfl]
  cases recorded : capturesOf key earlier with
  | nil => rfl
  | cons last others =>
      rw [recorded] at few
      obtain ⟨first, final⟩ : ∃ first, (last :: others).getLast? = some first :=
        ⟨_, List.getLast?_eq_some_getLast (List.cons_ne_nil _ _)⟩
      have count : (others.length + 1 + 1) % countModulus = others.length + 1 + 1 :=
        Nat.mod_eq_of_lt few
      simp [List.getLast?_cons_cons, final, CaptureEntry.again, count]

/-- Capturing under one key leaves what there is to tell of another. -/
theorem told?_record_of_ne (different : key ≠ other)
    : told? other (record key capture :: earlier) = told? other earlier := by
  rw [told?, told?, capturesOf_record, if_neg different]

/-- Reloads have no part in what there is to tell, nor in what else is answered. -/
theorem capturesOf_direct (key : CaptureKey) (operations : List HistoryOperation)
    : capturesOf key (operations.filter (!·.isReload)) = capturesOf key operations := by
  unfold capturesOf
  rw [List.filterMap_filter]
  congr 1
  funext operation
  cases operation <;> rfl

theorem told?_direct (key : CaptureKey) (operations : List HistoryOperation)
    : told? key (operations.filter (!·.isReload)) = told? key operations := by
  rw [told?, told?, capturesOf_direct]

theorem expected_direct (operations : List HistoryOperation)
    : expected (operations.filter (!·.isReload))
      = (expected operations).filter (· ≠ .reloaded) := by
  induction operations with
  | nil => rfl
  | cons operation earlier ih =>
      cases operation with
      | record key capture =>
          have told := told?_direct key (record key capture :: earlier)
          rw [List.filter_cons_of_pos rfl] at told ⊢
          rw [expected, expected, told, ih]
          rfl
      | lookup key =>
          rw [List.filter_cons_of_pos rfl, expected, expected, told?_direct, ih]
          rfl
      | reload place =>
          rw [List.filter_cons_of_neg (by simp [isReload]), expected, ih]
          rfl

end HistoryOperation

-----------------------------------------------------------------------------------------
-- What a history tells
-----------------------------------------------------------------------------------------

open HistoryOperation

/-- After operations a history tells just what they leave to tell, and can be kept. -/
structure CaptureHistory.Follows (history : CaptureHistory) (operations : List HistoryOperation)
    : Prop where
  told : ∀ key, history.lookup? key = told? key operations
  storable : history.IsStorable

namespace CaptureHistory

variable {history : CaptureHistory} {operations : List HistoryOperation}

/-- The step from one operation to the next, by cases of the operation. Keeping a history and
loading it gives the same one again.
-/
theorem Follows.perform (follows : history.Follows operations) {operation : HistoryOperation}
    (allowed : operation.IsAllowed)
    (few : ∀ key, (capturesOf key (operation :: operations)).length < countModulus)
    : ∃ answer later,
        operation.perform? history = .ok (answer, later)
        ∧ expected (operation :: operations) = answer :: expected operations
        ∧ later.Follows (operation :: operations) := by
  cases operation with
  | record key capture =>
      have told := told?_record (few key)
      have entry
          : (history.record key capture).1
            = ((told? key operations).map (·.again)).getD capture.first := by
        rw [← follows.told key, CaptureHistory.record]
        cases history.lookup? key <;> rfl
      refine ⟨.told (some (history.record key capture).1), (history.record key capture).2, rfl,
        ?_, ?_, follows.storable.record key allowed⟩
      · rw [expected, told, entry]
      · intro other
        rw [lookup?_record]
        by_cases same : other = key
        · rw [if_pos same, same, told, follows.told key]
        · rw [if_neg same, told?_record_of_ne (Ne.symm same), follows.told other]
  | lookup key =>
      refine ⟨_, _, rfl, ?_, follows.told, follows.storable⟩
      rw [expected, follows.told key]
  | reload place =>
      obtain ⟨kept, persisted⟩ : ∃ kept, history.persist place = .ok kept := by
        rcases allowed with rfl | ⟨bytes, rfl⟩
        · exact ⟨_, rfl⟩
        · exact ⟨_, rfl⟩
      refine ⟨.reloaded, history, ?_, rfl, follows.told, follows.storable⟩
      rw [perform?, persisted]
      change (load kept >>= _) = _
      rw [load_of_persist follows.storable persisted]
      rfl

/-- Whatever operations are performed from an empty history on, by induction on the operations. -/
theorem follows_performAll? (operations : List HistoryOperation)
    (allowed : ∀ operation ∈ operations, operation.IsAllowed)
    (few : ∀ key, (capturesOf key operations).length < countModulus)
    : ∃ history,
        performAll? operations = .ok (expected operations, history)
        ∧ history.Follows operations := by
  induction operations with
  | nil => exact ⟨empty, rfl, fun _ => rfl, isStorable_empty⟩
  | cons operation earlier ih =>
      obtain ⟨first, others⟩ := List.forall_mem_cons.mp allowed
      have fewer : ∀ key, (capturesOf key earlier).length < countModulus := by
        intro key
        refine Nat.lt_of_le_of_lt ?_ (few key)
        exact ((List.sublist_cons_self operation earlier).filterMap (captureOf? key)).length_le
      obtain ⟨before, performed, follows⟩ := ih others fewer
      obtain ⟨answer, history, done, answered, next⟩ := follows.perform first few
      refine ⟨history, ?_, next⟩
      rw [performAll?, performed, answered]
      change (operation.perform? before >>= _) = _
      rw [done]
      rfl

/-- Operations on a history that was empty at first may record captures, look them up, and keep the
history in a file and load it again, in any order, as long as no count goes beyond its range. Their
answers follow from the operations alone, and are the same without the reloads. A key tells nothing
exactly if nothing was recorded under it; else it tells the first capture that was, and how many
there were. What is recorded under one key changes no other, and a history that is kept in a file,
in whatever order its entries are listed there, is loaded as one that tells the same.
-/
theorem performAll?_answers (operations : List HistoryOperation)
    (allowed : ∀ operation ∈ operations, operation.IsAllowed)
    (few : ∀ key, (capturesOf key operations).length < countModulus)
    : ∃ answers history direct,
        performAll? operations = .ok (answers, history)
        ∧ answers = expected operations
        ∧ performAll? (operations.filter (!·.isReload))
          = .ok (answers.filter (· ≠ .reloaded), direct)
        ∧ (∀ key,
            history.lookup? key = none ↔ ∀ capture, .record key capture ∉ operations)
        ∧ (∀ key, history.lookup? key = told? key operations)
        ∧ (∀ key other capture,
            other ≠ key
            → (history.record key capture).2.lookup? other = history.lookup? other)
        ∧ ∀ (listed : CaptureHistory) place kept,
            listed.entries.Perm history.entries
            → listed.persist place = .ok kept
            → ∃ loaded,
                load kept = .ok loaded
                ∧ ∀ key, loaded.lookup? key = history.lookup? key := by
  obtain ⟨history, performed, follows⟩ := follows_performAll? operations allowed few
  obtain ⟨direct, withoutReloads, -⟩ :=
    follows_performAll? (operations.filter (!·.isReload))
      (fun operation member => allowed operation (List.mem_filter.mp member).1)
      (fun key => capturesOf_direct key operations ▸ few key)
  refine ⟨expected operations, history, direct, performed, rfl, ?_, ?_, follows.told, ?_, ?_⟩
  · rw [withoutReloads, expected_direct]
  · intro key
    rw [follows.told, told?_eq_none_iff]
  · intro key other capture different
    rw [lookup?_record, if_neg different]
  · intro listed place kept same persisted
    exact ⟨listed, load_of_persist (follows.storable.of_perm same) persisted,
      lookup?_of_perm follows.storable.unique same⟩

/-- Two captures of one content, the first one in a leap second, with a reload after each. -/
theorem performAll?_answers_twice
    : let key : CaptureKey := ⟨"sha1:é\"\\"⟩
      let first : Capture := ⟨"http://a/\u2028", ⟨1483228799, 1500000000⟩, "urn:a"⟩
      let second : Capture := ⟨"http://b/", ⟨-5000000000000, 1000⟩, "urn:b"⟩
      let operations : List HistoryOperation :=
        [.lookup key, .reload (.file [1]), .record key second, .reload .vacant,
          .record key first, .lookup key]
      (∀ operation ∈ operations, operation.IsAllowed)
      ∧ (∀ key, (capturesOf key operations).length < countModulus)
      ∧ ∃ history,
          performAll? operations
            = .ok
                ([.told (some ⟨first.url, first.date, first.recordId, 2⟩), .reloaded,
                    .told (some ⟨first.url, first.date, first.recordId, 2⟩), .reloaded,
                    .told (some ⟨first.url, first.date, first.recordId, 1⟩), .told none],
                  history)
          ∧ history.lookup? key = some ⟨first.url, first.date, first.recordId, 2⟩ := by
  intro key first second operations
  have allowed : ∀ operation ∈ operations, operation.IsAllowed := by
    simp only [operations, List.forall_mem_cons]
    exact ⟨trivial, .inr ⟨_, rfl⟩, ⟨by decide, .inl (by decide)⟩, .inl rfl,
      ⟨by decide, .inr ⟨by decide, by decide⟩⟩, trivial, by simp⟩
  have few : ∀ key, (capturesOf key operations).length < countModulus := by
    intro key
    have fewer : (capturesOf key operations).length ≤ 6 := List.length_filterMap_le _ _
    exact Nat.lt_of_le_of_lt fewer (by decide)
  obtain ⟨answers, history, -, performed, rfl, -, -, told, -⟩ :=
    performAll?_answers operations allowed few
  exact ⟨allowed, few, history, performed, told key⟩

end CaptureHistory

end WebHarvest
