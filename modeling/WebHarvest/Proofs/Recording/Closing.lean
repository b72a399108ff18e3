import WebHarvest.Proofs.Recording.OperationRuns

/-! What is left of a closed recorder: its size, its digest and its bytes stay whatever is
still tried. The place where its body begins does not stay, since an envelope moves it before the
recorder refuses the bytes.
-/

namespace WebHarvest.Recording

open Clock (Instant)

variable {α : Type}

-----------------------------------------------------------------------------------------
-- What a closed recorder keeps
-----------------------------------------------------------------------------------------

theorem Recorder.isOpen_close (recorder : Recorder α) : recorder.close.isOpen = false := by
  unfold close
  split
  · rfl
  · rename_i closed
    exact Bool.eq_false_iff.mpr closed

theorem Recorder.write_of_closed {recorder : Recorder α} (closed : recorder.isOpen = false)
    (bytes : Bytes) (digested : Bool)
    : recorder.write bytes digested = (recorder, .error .closed) := by
  simp [Recorder.write, closed]

/-- A chunk with bytes in it is refused. -/
theorem Recorder.Writes.of_closed {recorder written : Recorder α} {declared : Option Nat}
    {bytes : Bytes} {result : Except RecordError Unit}
    (writes : recorder.Writes declared bytes written result) (closed : recorder.isOpen = false)
    : written = recorder ∧ result = .error .closed := by
  have wrote := writes.wrote
  rw [write_of_closed closed] at wrote
  cases wrote
  exact ⟨rfl, rfl⟩

/-- A recorder that was closed, and the same one later on. -/
structure Recorder.StaysClosed (closed later : Recorder α) : Prop where
  isOpen : later.isOpen = false
  size : later.size = closed.size
  digest : later.digest = closed.digest
  bytes : later.spool.bytes = closed.spool.bytes

theorem Recorder.StaysClosed.refl {closed : Recorder α} (isClosed : closed.isOpen = false)
    : closed.StaysClosed closed :=
  ⟨isClosed, rfl, rfl, rfl⟩

theorem Recorder.StaysClosed.trans {closed later last : Recorder α}
    (first : closed.StaysClosed later) (second : later.StaysClosed last)
    : closed.StaysClosed last :=
  ⟨second.isOpen, second.size.trans first.size, second.digest.trans first.digest,
    second.bytes.trans first.bytes⟩

variable [Tokens α]

/-- Reading on leaves a closed recorder as it is. -/
theorem Course.keeps_closed (guard : Clock.Guard) (declared : Option Nat) {recorder : Recorder α}
    (closed : recorder.isOpen = false)
    : Keeps guard declared (fun course _ _ => course.recorder = recorder)
        fun reading => reading.recorder = recorder where
  late same _ := (recorder_interrupted _ _ _).trans same
  stalls same := (recorder_interrupted _ _ _).trans same
  ends same _ := same
  fails same _ := same
  pause same := same
  further := by
    rintro course grown pauses moment bytes rest rfl - absorbed
    obtain ⟨-, rfl⟩ | ⟨written, writes, -⟩ := cases_of_absorb_ok absorbed
    · rfl
    · cases (writes.of_closed closed).2
  last := by
    rintro course reading pauses moment bytes rest rfl - absorbed
    obtain ⟨written, ⟨why, writes, rfl⟩ | ⟨writes, -⟩⟩ := cases_of_absorb_error absorbed
    · exact (writes.of_closed closed).1
    · cases (writes.of_closed closed).2

theorem Recorder.recorder_read_of_closed {recorder : Recorder α}
    (closed : recorder.isOpen = false) (now : Instant) (cancelAt : Option Instant)
    (declared : Option Nat) (stream : Stream)
    : (recorder.read now cancelAt declared stream).recorder = recorder :=
  (Course.keeps_closed _ declared closed).read (fun _ => rfl) (fun _ => rfl) (fun _ => rfl)

-----------------------------------------------------------------------------------------
-- Operations on a closed recorder
-----------------------------------------------------------------------------------------

namespace Recorder

/-- One operation on a closed recorder, by cases. Only an envelope moves the beginning of the body:
to the end of all that is recorded.
-/
theorem staysClosed_perform {recorder : Recorder α} (closed : recorder.isOpen = false)
    (operation : Operation)
    : recorder.StaysClosed (recorder.perform operation)
      ∧ (recorder.perform operation).contentBegin
        = if operation.isEnvelope then recorder.size else recorder.contentBegin := by
  cases operation with
  | envelope bytes =>
      have refused : recorder.perform (.envelope bytes)
          = { recorder with contentBegin := recorder.size } := by
        simp only [perform, recordEnvelope, write_of_closed closed]
      rw [refused]
      exact ⟨⟨closed, rfl, rfl, rfl⟩, rfl⟩
  | body now cancelAt declared stream =>
      have refused : recorder.perform (.body now cancelAt declared stream) = recorder :=
        recorder_read_of_closed closed now cancelAt declared stream
      rw [refused]
      exact ⟨.refl closed, rfl⟩
  | replay => exact ⟨⟨closed, rfl, rfl, Spool.bytes_replay _⟩, rfl⟩
  | close =>
      have same : recorder.perform .close = recorder := by
        simp [perform, close, closed]
      rw [same]
      exact ⟨.refl closed, rfl⟩

/-- Operations in order, by induction on them. -/
theorem staysClosed_performAll {recorder : Recorder α} (closed : recorder.isOpen = false)
    (operations : List Operation)
    : recorder.StaysClosed (recorder.performAll operations)
      ∧ (recorder.performAll operations).contentBegin
        = if operations.any (·.isEnvelope) then recorder.size else recorder.contentBegin := by
  induction operations generalizing recorder with
  | nil => exact ⟨.refl closed, rfl⟩
  | cons operation rest ih =>
      obtain ⟨first, moved⟩ := staysClosed_perform closed operation
      obtain ⟨later, beginning⟩ := ih first.isOpen
      refine ⟨first.trans later, Eq.trans beginning ?_⟩
      rw [first.size, moved, List.any_cons]
      cases operation.isEnvelope <;> simp

/-- However a recorder came to be closed, all further operations leave it closed, with the size, the
digest and the replayed bytes that it had. The body begins and ends where it did unless an
envelope is tried, even though that is refused: from then on the body is empty.
-/
theorem performAll_close_stays (recorder : Recorder α) (operations : List Operation)
    : let closed := recorder.close
      let later := closed.performAll operations
      later.isOpen = false
      ∧ later.size = closed.size
      ∧ later.digest = closed.digest
      ∧ later.replay.1 = closed.replay.1
      ∧ later.contentBegin
        = (if operations.any (·.isEnvelope) then closed.size else closed.contentBegin)
      ∧ later.bodySize
        = if operations.any (·.isEnvelope) then 0 else closed.bodySize := by
  intro closed later
  obtain ⟨stays, beginning⟩ := staysClosed_performAll recorder.isOpen_close operations
  refine ⟨stays.isOpen, stays.size, stays.digest, ?_, beginning, ?_⟩
  · exact (Spool.replay_fst _).trans (stays.bytes.trans (Spool.replay_fst _).symm)
  · rw [bodySize, stays.size, beginning]
    split
    · exact Nat.sub_self _
    · rfl

/-- An envelope that a closed recorder refuses takes its body away, though the digest still tells of
that body.
-/
theorem performAll_close_moves_body
    : let closed : Recorder Float :=
        ((start 0 ⟨0, none, 0⟩ (some .md5)).performAll
          [.envelope [1], .body 0 none none [.chunk [2]]]).close
      let later := closed.performAll [.envelope [3]]
      (closed.recordEnvelope [3]).2 = .error .closed
      ∧ (closed.contentBegin = 1 ∧ closed.bodySize = 1 ∧ closed.replay.1.drop 1 = [2])
      ∧ (later.contentBegin = 2 ∧ later.bodySize = 0 ∧ later.replay.1.drop 2 = [])
      ∧ later.digest = some (DigestAlgorithm.md5.digest [2]) := by
  decide +kernel

end Recorder

end WebHarvest.Recording
