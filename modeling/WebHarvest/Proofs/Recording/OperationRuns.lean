import Mathlib.Data.List.Forall2
import Mathlib.Data.List.Induction
import WebHarvest.Proofs.Recording.BodyPrefix

/-! Runs of operations on one recorder, in any order but with the envelope in front: at each point
the recorder's size, the place where the body begins, the bytes it replays and its digest agree.
-/

namespace WebHarvest.Recording

open Clock (Instant)

/-- What can be done with an open or closed recorder. -/
inductive Operation where
  | envelope (bytes : Bytes)
  | body (now : Instant) (cancelAt : Option Instant) (declared : Option Nat) (stream : Stream)
  | replay
  | close

namespace Operation

/-- Whether an envelope is recorded. -/
def isEnvelope : Operation → Bool
  | envelope _ => true
  | body .. | replay | close => false

/-- Whether no envelope may be recorded any more: a body is read, or the recorder is closed. -/
def endsEnvelope : Operation → Bool
  | body .. | close => true
  | envelope _ | replay => false

/-- The bytes that are to be recorded in front of the body. -/
def envelopeBytes : Operation → Bytes
  | envelope bytes => bytes
  | body .. | replay | close => []

/-- The bytes of a body that come in, if one is read. -/
def incoming? : Operation → Option Bytes
  | body _ _ _ stream => some stream.body
  | envelope _ | replay | close => none

end Operation

/-- Envelopes come while the recorder is open and before the first body. -/
def EnvelopesFirst (operations : List Operation) : Prop :=
  operations.Pairwise fun earlier later => earlier.endsEnvelope → later.isEnvelope = false

instance (operations : List Operation) : Decidable (EnvelopesFirst operations) :=
  inferInstanceAs (Decidable (List.Pairwise _ _))

/-- The first part of some bytes that a cap lets in. -/
def Limits.clip (limits : Limits) (bytes : Bytes) : Bytes :=
  if 0 < limits.hardMax then bytes.take limits.hardMax else bytes

namespace Recorder

variable {α : Type} {recorder : Recorder α} {limits : Limits}
  {algorithm : Option DigestAlgorithm}

/-- What an envelope adds to the envelopes before it under the cap is what the recorder accepts of
it, since those before it fill as much of the cap as they can.
-/
theorem Holds.clip_append {earlier : Bytes}
    (holds : recorder.Holds limits algorithm (limits.clip earlier) [])
    (isOpen : recorder.isOpen = true) (bytes : Bytes)
    : limits.clip (earlier ++ bytes) = limits.clip earlier ++ recorder.accepted bytes := by
  have size : recorder.size = (limits.clip earlier).length := by simpa using holds.size
  unfold accepted admitted
  simp only [isOpen, if_true, holds.limited, size]
  unfold Limits.clip
  split
  · rw [List.take_append, List.append_cancel_left_eq, List.take_eq_take_iff, List.length_take]
    omega
  · rw [List.take_length]

/-- A recorder that has gone through operations with the envelope in front holds their envelopes as
far as the cap lets them in, and of each body a first part. As long as no body was read and it was
not closed, it is open.
-/
structure HasPerformed (recorder : Recorder α) (limits : Limits)
    (algorithm : Option DigestAlgorithm) (operations : List Operation) (portions : List Bytes)
    : Prop where
  parts : List.Forall₂ (· <+: ·) portions (operations.filterMap Operation.incoming?)
  holds
    : recorder.Holds limits algorithm
        (limits.clip (operations.flatMap Operation.envelopeBytes)) portions.flatten
  isOpen : (∀ operation ∈ operations, operation.endsEnvelope = false) → recorder.isOpen = true

/-- Before the first body there are no bodies of which something is held. -/
theorem HasPerformed.portions_eq_nil {operations : List Operation} {portions : List Bytes}
    (performed : recorder.HasPerformed limits algorithm operations portions)
    (goesOn : ∀ operation ∈ operations, operation.endsEnvelope = false)
    : portions = [] := by
  have none : operations.filterMap Operation.incoming? = [] := by
    rw [List.filterMap_eq_nil_iff]
    intro operation member
    have goesOn := goesOn operation member
    cases operation with
    | body => cases goesOn
    | envelope | replay | close => rfl
  have parts := performed.parts
  rw [none] at parts
  cases parts
  rfl

variable [Tokens α]

/-- The recorder after an operation. -/
def perform (recorder : Recorder α) : Operation → Recorder α
  | .envelope bytes => (recorder.recordEnvelope bytes).1
  | .body now cancelAt declared stream => (recorder.read now cancelAt declared stream).recorder
  | .replay => recorder.replay.2
  | .close => recorder.close

/-- The recorder after operations in order. -/
def performAll (recorder : Recorder α) (operations : List Operation) : Recorder α :=
  operations.foldl perform recorder

/-- An operation that leaves room for envelopes leaves the recorder open, by cases. -/
theorem isOpen_perform {operation : Operation} (goesOn : operation.endsEnvelope = false)
    (isOpen : recorder.isOpen = true)
    : (recorder.perform operation).isOpen = true := by
  cases operation with
  | envelope bytes => simp [perform, recordEnvelope, write, isOpen]
  | body now cancelAt declared stream => cases goesOn
  | replay => exact isOpen
  | close => cases goesOn

namespace HasPerformed

variable {operations : List Operation} {portions : List Bytes}

theorem start (now : Instant) (limits : Limits) (algorithm : Option DigestAlgorithm)
    : (start now limits algorithm : Recorder α).HasPerformed limits algorithm [] [] where
  parts := .nil
  holds := by
    have nothing : limits.clip [] = [] := by simp [Limits.clip]
    rw [List.flatMap_nil, nothing]
    exact holds_start now limits algorithm
  isOpen _ := rfl

/-- One more operation, by cases. An envelope meets an open recorder without a body. -/
theorem perform (performed : recorder.HasPerformed limits algorithm operations portions)
    {operation : Operation}
    (before : ∀ other ∈ operations, other.endsEnvelope → operation.isEnvelope = false)
    : ∃ portions,
        (recorder.perform operation).HasPerformed limits algorithm (operations ++ [operation])
          portions := by
  have stays
      : (∀ other ∈ operations ++ [operation], other.endsEnvelope = false)
        → (recorder.perform operation).isOpen = true := by
    intro goesOn
    exact isOpen_perform (goesOn operation (by simp))
      (performed.isOpen fun other member => goesOn other (by simp [member]))
  have envelopes
      : (operations ++ [operation]).flatMap Operation.envelopeBytes
        = operations.flatMap Operation.envelopeBytes ++ operation.envelopeBytes := by
    rw [List.flatMap_append, List.flatMap_singleton]
  have bodies
      : (operations ++ [operation]).filterMap Operation.incoming?
        = operations.filterMap Operation.incoming? ++ operation.incoming?.toList := by
    rw [List.filterMap_append]
    cases operation <;> rfl
  have holds := performed.holds
  cases operation with
  | envelope bytes =>
      have goesOn : ∀ other ∈ operations, other.endsEnvelope = false := by
        intro other member
        by_contra ends
        cases before other member (by simpa using ends)
      have isOpen := performed.isOpen goesOn
      obtain rfl := performed.portions_eq_nil goesOn
      have added := holds.recordEnvelope isOpen bytes
      rw [← holds.clip_append isOpen] at added
      exact ⟨[], {
        parts := by
          rw [bodies]
          exact (List.append_nil _).symm ▸ performed.parts
        holds := envelopes ▸ added
        isOpen := stays
      }⟩
  | body now cancelAt declared stream =>
      obtain ⟨kept, extends'⟩ := read_extends holds now cancelAt declared stream
      exact ⟨portions ++ [kept], {
        parts := bodies ▸ List.rel_append performed.parts (.cons extends'.isPrefix .nil)
        holds := by
          rw [envelopes, List.flatten_append, List.flatten_singleton, Operation.envelopeBytes,
            List.append_nil]
          exact extends'.holds
        isOpen := stays
      }⟩
  | replay =>
      exact ⟨portions, {
        parts := bodies ▸ (List.append_nil _).symm ▸ performed.parts
        holds := envelopes ▸ (List.append_nil (operations.flatMap _)).symm ▸ holds.replay
        isOpen := stays
      }⟩
  | close =>
      exact ⟨portions, {
        parts := bodies ▸ (List.append_nil _).symm ▸ performed.parts
        holds := envelopes ▸ (List.append_nil (operations.flatMap _)).symm ▸ holds.close
        isOpen := stays
      }⟩

end HasPerformed

/-- So it is after all operations, by induction on them from the last one. -/
theorem exists_hasPerformed (now : Instant) (limits : Limits)
    (algorithm : Option DigestAlgorithm) (operations : List Operation)
    (ordered : EnvelopesFirst operations)
    : ∃ portions,
        ((start now limits algorithm : Recorder α).performAll operations).HasPerformed limits
          algorithm operations portions := by
  induction operations using List.reverseRecOn with
  | nil => exact ⟨[], .start now limits algorithm⟩
  | append_singleton operations operation ih =>
      obtain ⟨earlier, -, before⟩ := List.pairwise_append.mp ordered
      obtain ⟨portions, performed⟩ := ih earlier
      rw [performAll, List.foldl_concat]
      exact performed.perform fun other member ends =>
        before other member operation List.mem_cons_self ends

/-- After any operations with the envelope in front, the body does not begin beyond the size, the
size keeps to the cap, and replaying gives as many bytes as the size tells: the envelopes as far
as the cap lets them in, and behind them a first part of each body that came in, in order. A
closed recorder has the digest of all that is replayed from the beginning of the body on. Since
the operations are any, this is so at each point between them; a read that is left while it waits
is one of a stream that stalls there.
-/
theorem performAll_consistent (now : Instant) (limits : Limits)
    (algorithm : Option DigestAlgorithm) (operations : List Operation)
    (ordered : EnvelopesFirst operations)
    : let recorder : Recorder α := (start now limits algorithm).performAll operations
      let replayed := recorder.replay.1
      let envelope := limits.clip (operations.flatMap Operation.envelopeBytes)
      recorder.contentBegin ≤ recorder.size
      ∧ (0 < limits.hardMax → recorder.size ≤ limits.hardMax)
      ∧ replayed.length = recorder.size
      ∧ recorder.contentBegin = envelope.length
      ∧ (∃ portions,
          List.Forall₂ (· <+: ·) portions (operations.filterMap Operation.incoming?)
          ∧ replayed = envelope ++ portions.flatten)
      ∧ (recorder.isOpen = false
          → recorder.digest
            = algorithm.map fun algorithm =>
                algorithm.digest (replayed.drop recorder.contentBegin)) := by
  obtain ⟨portions, parts, holds, -⟩ :=
    exists_hasPerformed (α := α) now limits algorithm operations ordered
  have replayed := holds.replay_fst
  refine ⟨?_, holds.capped, ?_, holds.contentBegin, ⟨portions, parts, replayed⟩, ?_⟩
  · rw [holds.size, holds.contentBegin]
    exact Nat.le_add_right _ _
  · rw [replayed, holds.size, List.length_append]
  · intro closed
    rw [holds.finished closed, replayed, holds.contentBegin, List.drop_left]

/-- A body that is cut off by the cap is replayed and digested as far as it was recorded. -/
theorem performAll_consistent_capped
    : let operations : List Operation :=
        [.envelope [1, 2], .replay, .envelope [3],
          .body 0 none (some 2) [.chunk [4], .pause 5, .chunk [5, 6]], .close, .replay]
      let recorder : Recorder Float := (start 0 ⟨4, none, 0⟩ (some .md5)).performAll operations
      EnvelopesFirst operations
      ∧ recorder.replay.1 = [1, 2, 3, 4]
      ∧ recorder.size ≤ 4
      ∧ recorder.digest
        = some (DigestAlgorithm.md5.digest (recorder.replay.1.drop recorder.contentBegin)) := by
  intro operations recorder
  have ordered : EnvelopesFirst operations := by decide
  obtain ⟨-, capped, -, -, -, digested⟩ :=
    performAll_consistent (α := Float) 0 ⟨4, none, 0⟩ (some .md5) operations ordered
  exact ⟨ordered, by decide, capped (by decide), digested (by decide)⟩

end Recorder

end WebHarvest.Recording
