import WebHarvest.Proofs.Recording.ExactTokens
import WebHarvest.Proofs.Recording.Steps

/-! A body that is recorded up to its declared length. No more of it is waited for then, but the
last bytes may still have to be paid for, and a deadline or a cancellation cuts that wait short as
any other one.
-/

namespace WebHarvest.Recording

open Clock (Guard Instant)

variable {α : Type}

namespace Recorder

theorem isFilled_iff {recorder : Recorder α} {length : Nat}
    : recorder.isFilled (some length) = true ↔ length ≤ recorder.bodySize := by
  simp [isFilled]

theorem unfilled_iff {recorder : Recorder α} {length : Nat}
    : recorder.isFilled (some length) = false ↔ recorder.bodySize < length := by
  simp [isFilled]

/-- A body grows by no more bytes than are written. -/
theorem bodySize_write_le (recorder : Recorder α) (bytes : Bytes) (digested : Bool)
    : (recorder.write bytes digested).1.bodySize ≤ recorder.bodySize + bytes.length := by
  have admitted := recorder.admitted_le bytes.length
  unfold write bodySize
  split
  · dsimp only
    omega
  · exact Nat.le_add_right _ _

/-- By fewer if the write fails and there was anything to write. -/
theorem bodySize_lt_of_write_error {recorder written : Recorder α} {bytes : Bytes}
    {digested : Bool} {why : RecordError}
    (failed : recorder.write bytes digested = (written, .error why)) (nonempty : bytes ≠ [])
    : written.bodySize < recorder.bodySize + bytes.length := by
  have length := List.length_pos_iff.mpr nonempty
  rcases cases_of_write_error failed with ⟨-, rfl⟩ | ⟨-, dropped, size, contentBegin⟩
  · exact Nat.lt_add_of_pos_right length
  · rw [bodySize, bodySize, size, contentBegin]
    omega

/-- What is written of a chunk does not take the body beyond the declared length. -/
theorem length_withinDeclared_le (recorder : Recorder α) (length : Nat) (chunk : Bytes)
    : (recorder.withinDeclared (some length) chunk).length ≤ length - recorder.bodySize :=
  List.length_take_le _ _

/-- While the body is not filled, a chunk brings it up to the declared length at most. -/
theorem Writes.bodySize_le {recorder written : Recorder α} {length : Nat} {bytes : Bytes}
    {result : Except RecordError Unit}
    (writes : recorder.Writes (some length) bytes written result)
    (unfilled : recorder.bodySize < length)
    : written.bodySize ≤ length := by
  have size :=
    recorder.bodySize_write_le (recorder.withinDeclared (some length) bytes) true
  have within := recorder.length_withinDeclared_le length bytes
  rw [writes.wrote] at size
  dsimp only at size
  omega

/-- A chunk of which something is dropped does not. -/
theorem Writes.bodySize_lt {recorder written : Recorder α} {length : Nat} {bytes : Bytes}
    {why : RecordError} (writes : recorder.Writes (some length) bytes written (.error why))
    (unfilled : recorder.bodySize < length)
    : written.bodySize < length := by
  have within := recorder.length_withinDeclared_le length bytes
  have nonempty : recorder.withinDeclared (some length) bytes ≠ [] := by
    have anything := writes.nonempty
    have room : length - recorder.bodySize ≠ 0 := by omega
    simp [withinDeclared, anything, room]
  have size := bodySize_lt_of_write_error writes.wrote nonempty
  omega

end Recorder

/-- If a reading ends with an error though the body has come to the declared length, it is exactly
that long, and the guard has cut short a wait that a rate asked for.
-/
def ReadEnd.IsWhole (length : Nat) (paced : Bool) (recorder : Recorder α) (ending : ReadEnd)
    : Prop :=
  ∀ why,
    ending = .failed why
    → length ≤ recorder.bodySize
    → paced = true
      ∧ recorder.bodySize = length
      ∧ (why = .cancelled ∨ ∃ elapsed, why = .timeout elapsed)

/-- A guard cuts a wait short in two ways. -/
theorem CutsShort.isGuards {guard : Guard} {now later : Instant} {why : RecordError}
    (cut : CutsShort guard now later (.failed why))
    : why = .cancelled ∨ ∃ elapsed, why = .timeout elapsed := by
  cases cut with
  | cancelled watched first => exact .inl rfl
  | expired watched first => exact .inr ⟨_, rfl⟩

/-- No step of a read ends with an error from a body of the declared length, but the wait for the
bytes that made it so long.
-/
theorem Recorder.carries_unfilled (guard : Guard) (length : Nat) (paced : Bool)
    : Carries guard (some length)
        (fun (recorder : Recorder α) _ _ =>
          recorder.bodySize < length ∧ recorder.bucket.isSome = paced)
        fun recorder _ ending => ending.IsWhole length paced recorder := by
  have short {recorder : Recorder α} {ending : ReadEnd} (unfilled : recorder.bodySize < length)
      : ending.IsWhole length paced recorder :=
    fun _ _ whole => absurd whole (Nat.not_le_of_lt unfilled)
  have bucket {recorder written : Recorder α} {bytes : Bytes} {result : Except RecordError Unit}
      (writes : recorder.Writes (some length) bytes written result)
      : written.bucket.isSome = recorder.bucket.isSome := by
    have same := recorder.bucket_write (recorder.withinDeclared (some length) bytes) true
    rw [writes.wrote] at same
    rw [← same]
  exact {
    cut := fun inv _ => short inv.1
    ends := fun inv _ => short inv.1
    fails := fun inv _ => short inv.1
    pause := fun inv => inv
    empty := fun inv _ => inv
    refused := fun inv _ writes => short (writes.bodySize_lt inv.1)
    unpaid := fun _ inv _ writes paid cut => by
      rintro why rfl whole
      exact ⟨inv.2 ▸ bucket writes ▸ paid, Nat.le_antisymm (writes.bodySize_le inv.1) whole,
        cut.isGuards⟩
    filled := fun _ _ _ _ _ _ => nofun
    further := fun _ inv _ writes _ kept unfilled =>
      ⟨unfilled_iff.mp unfilled, kept.trans ((bucket writes).trans inv.2)⟩
  }

/-- A read that ends with an error has recorded fewer bytes than declared, but where a rate is set
and the guard cuts short the wait for the last of exactly as many.
-/
theorem Recorder.isWhole_read [Tokens α] (recorder : Recorder α) (now : Instant)
    (cancelAt : Option Instant) (length : Nat) (stream : Stream)
    : let reading := recorder.read now cancelAt (some length) stream
      reading.ending.IsWhole length recorder.bucket.isSome reading.recorder :=
  (carries_unfilled ⟨cancelAt, recorder.deadline?⟩ length recorder.bucket.isSome).read
    (fun _ => nofun) (fun _ => nofun) fun unfilled => ⟨unfilled_iff.mp unfilled, rfl⟩

end WebHarvest.Recording
