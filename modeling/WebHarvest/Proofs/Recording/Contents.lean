import WebHarvest.Proofs.Digest.Streaming
import WebHarvest.Recording.Reading

/-! What a recorder holds: its size, the place where the body begins, the spooled bytes and the
running digest all tell of the same envelope and the same body. Every operation keeps it so.
-/

namespace WebHarvest.Recording

-----------------------------------------------------------------------------------------
-- The spool
-----------------------------------------------------------------------------------------

namespace Spool

/-- What is written next comes behind all bytes. -/
def IsAtEnd : Spool → Prop
  | memory _ => True
  | file bytes position => position = bytes.length

/-- Written bytes come behind the others, in memory and in a file at its end. -/
theorem bytes_write {spool : Spool} (atEnd : spool.IsAtEnd) (new : Bytes)
    : (spool.write new).bytes = spool.bytes ++ new := by
  cases spool with
  | memory kept =>
      simp only [write]
      split <;> rfl
  | file kept position =>
      have position : position = kept.length := atEnd
      subst position
      simp [write, bytes]

/-- A spool at its end is at its end after a write, also after the one that moves it to a file. -/
theorem isAtEnd_write {spool : Spool} (atEnd : spool.IsAtEnd) (new : Bytes)
    : (spool.write new).IsAtEnd := by
  cases spool with
  | memory kept =>
      simp only [write]
      split
      · trivial
      · exact List.length_append.symm
  | file kept position =>
      have position : position = kept.length := atEnd
      subst position
      simp [write, IsAtEnd]

/-- All bytes are read, and all of them stay. -/
@[simp]
theorem replay_fst (spool : Spool) : spool.replay.1 = spool.bytes := by
  cases spool <;> rfl

@[simp]
theorem bytes_replay (spool : Spool) : spool.replay.2.bytes = spool.bytes := by
  cases spool <;> rfl

/-- Reading leaves a spool at its end. -/
theorem isAtEnd_replay (spool : Spool) : spool.replay.2.IsAtEnd := by
  cases spool <;> trivial

end Spool

-----------------------------------------------------------------------------------------
-- The recorder
-----------------------------------------------------------------------------------------

namespace Recorder

variable {α : Type}

/-- A recorder that was opened with these limits and this algorithm holds an envelope and a body.
The digest is under way while the recorder is open and finished once it is closed.
-/
structure Holds (recorder : Recorder α) (limits : Limits) (algorithm : Option DigestAlgorithm)
    (envelope body : Bytes)
    : Prop where
  limited : recorder.limits = limits
  size : recorder.size = envelope.length + body.length
  contentBegin : recorder.contentBegin = envelope.length
  bytes : recorder.spool.bytes = envelope ++ body
  atEnd : recorder.spool.IsAtEnd
  capped : 0 < limits.hardMax → recorder.size ≤ limits.hardMax
  running
    : recorder.isOpen = true
      → recorder.hasher = algorithm.map (fun algorithm => (Hasher.start algorithm).update body)
        ∧ recorder.digest = none
  finished
    : recorder.isOpen = false
      → recorder.digest = algorithm.map (fun algorithm => algorithm.digest body)

variable {recorder : Recorder α} {limits : Limits} {algorithm : Option DigestAlgorithm}
  {envelope body : Bytes}

/-- The body's size is that of the body held. -/
theorem Holds.bodySize (holds : recorder.Holds limits algorithm envelope body)
    : recorder.bodySize = body.length := by
  rw [Recorder.bodySize, holds.size, holds.contentBegin]
  exact Nat.add_sub_cancel_left _ _

/-- Tokens have no part in what is held. -/
theorem Holds.withBucket (holds : recorder.Holds limits algorithm envelope body)
    (bucket : Option (TokenBucket α))
    : ({ recorder with bucket } : Recorder α).Holds limits algorithm envelope body :=
  { holds with }

/-- A recorder that was just opened holds nothing. -/
theorem holds_start [Tokens α] (now : Clock.Instant) (limits : Limits)
    (algorithm : Option DigestAlgorithm)
    : (start now limits algorithm : Recorder α).Holds limits algorithm [] [] where
  limited := rfl
  size := rfl
  contentBegin := rfl
  bytes := rfl
  atEnd := trivial
  capped _ := Nat.zero_le _
  running _ := ⟨by cases algorithm <;> rfl, rfl⟩
  finished closed := by cases closed

/-- No more bytes are let in than there are. -/
theorem admitted_le (recorder : Recorder α) (count : Nat) : recorder.admitted count ≤ count := by
  unfold admitted
  split
  · exact Nat.min_le_left _ _
  · exact Nat.le_refl _

/-- So the bytes that are let in are as many as are admitted. -/
theorem length_take_admitted (recorder : Recorder α) (bytes : Bytes)
    : (bytes.take (recorder.admitted bytes.length)).length = recorder.admitted bytes.length := by
  rw [List.length_take]
  exact Nat.min_eq_left (recorder.admitted_le _)

/-- The part of some bytes that a write records. -/
def accepted (recorder : Recorder α) (bytes : Bytes) : Bytes :=
  if recorder.isOpen then bytes.take (recorder.admitted bytes.length) else []

/-- What is recorded of some bytes are the first ones. -/
theorem accepted_isPrefix (recorder : Recorder α) (bytes : Bytes)
    : recorder.accepted bytes <+: bytes := by
  unfold accepted
  split
  · exact List.take_prefix _ _
  · exact List.nil_prefix

/-- A write without an error records everything. -/
theorem accepted_of_write_ok {bytes : Bytes} {digested : Bool}
    (written : (recorder.write bytes digested).2 = .ok ())
    : recorder.accepted bytes = bytes := by
  unfold accepted
  cases isOpen : recorder.isOpen with
  | false =>
      simp only [write, isOpen] at written
      cases written
  | true =>
      simp only [write, isOpen, if_true] at written
      by_cases dropped : recorder.admitted bytes.length < bytes.length
      · simp only [dropped, if_true] at written
        cases written
      · exact List.take_of_length_le (Nat.le_of_not_lt dropped)

/-- Body bytes that are written come behind the body, by the spool's append and the hasher's; the
cap leaves room for as many as are admitted.
-/
theorem Holds.write (holds : recorder.Holds limits algorithm envelope body) (bytes : Bytes)
    : (recorder.write bytes true).1.Holds limits algorithm envelope
        (body ++ recorder.accepted bytes) := by
  unfold Recorder.write accepted
  cases isOpen : recorder.isOpen with
  | false => simpa using holds
  | true =>
      obtain ⟨hasher, digest⟩ := holds.running isOpen
      have taken := recorder.length_take_admitted bytes
      simp only [if_true]
      exact {
        limited := holds.limited
        size := by simp only [List.length_append, taken, holds.size, Nat.add_assoc]
        contentBegin := holds.contentBegin
        bytes := by
          rw [Spool.bytes_write holds.atEnd, holds.bytes, List.append_assoc]
        atEnd := Spool.isAtEnd_write holds.atEnd _
        capped := by
          intro isCapped
          have size := holds.capped isCapped
          simp only [admitted, holds.limited, isCapped, if_true]
          omega
        running := by
          intro _
          simp only [hasher, Option.map_map, Function.comp_def, Hasher.update_update, digest,
            and_self]
        finished := by
          intro closed
          cases closed
      }

/-- An envelope that is recorded before the body comes behind the envelope held, and moves the
beginning of the body behind it.
-/
theorem Holds.recordEnvelope (holds : recorder.Holds limits algorithm envelope [])
    (isOpen : recorder.isOpen = true) (bytes : Bytes)
    : (recorder.recordEnvelope bytes).1.Holds limits algorithm
        (envelope ++ recorder.accepted bytes) [] := by
  obtain ⟨hasher, digest⟩ := holds.running isOpen
  have taken := recorder.length_take_admitted bytes
  have size : recorder.size = envelope.length := by
    rw [holds.size, List.length_nil, Nat.add_zero]
  unfold Recorder.recordEnvelope Recorder.write accepted
  simp only [isOpen, if_true]
  exact {
    limited := holds.limited
    size := by simp only [List.length_append, taken, size, List.length_nil, Nat.add_zero]
    contentBegin := by simp only [List.length_append, taken, size]
    bytes := by
      rw [Spool.bytes_write holds.atEnd, holds.bytes, List.append_nil, List.append_nil]
    atEnd := Spool.isAtEnd_write holds.atEnd _
    capped := by
      intro isCapped
      have bound := holds.capped isCapped
      simp only [admitted, holds.limited, isCapped, if_true]
      omega
    running := by
      intro _
      exact ⟨hasher, digest⟩
    finished := by
      intro closed
      cases closed
  }

/-- Closing turns the running digest of the body into the finished one; a closed recorder stays as
it is.
-/
theorem Holds.close (holds : recorder.Holds limits algorithm envelope body)
    : recorder.close.Holds limits algorithm envelope body := by
  unfold Recorder.close
  cases isOpen : recorder.isOpen with
  | false => simpa using holds
  | true =>
      obtain ⟨hasher, digest⟩ := holds.running isOpen
      simp only [if_true]
      exact {
        limited := holds.limited
        size := holds.size
        contentBegin := holds.contentBegin
        bytes := holds.bytes
        atEnd := holds.atEnd
        capped := holds.capped
        running := by
          intro stillOpen
          cases stillOpen
        finished := by
          intro _
          simp only [hasher, digest, Option.map_map, Function.comp_def, Hasher.finish_update_start,
            Option.or_none]
      }

/-- Replaying gives the envelope and the body behind it. -/
theorem Holds.replay_fst (holds : recorder.Holds limits algorithm envelope body)
    : recorder.replay.1 = envelope ++ body := by
  rw [← holds.bytes, ← Spool.replay_fst]
  rfl

/-- Replaying changes nothing that is held. -/
theorem Holds.replay (holds : recorder.Holds limits algorithm envelope body)
    : recorder.replay.2.Holds limits algorithm envelope body :=
  { holds with
    bytes := (Spool.bytes_replay _).trans holds.bytes
    atEnd := Spool.isAtEnd_replay _ }

end Recorder

end WebHarvest.Recording
