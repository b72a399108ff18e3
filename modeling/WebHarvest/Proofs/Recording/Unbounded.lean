import WebHarvest.Proofs.Recording.Steps

/-! Bounds take bytes off the end of what is recorded, and change nothing of the rest: a read under
a deadline, a cancellation and a rate records a first part of what it would record without them.
-/

namespace WebHarvest.Recording

open Clock (Guard Instant)

variable {α : Type}

-----------------------------------------------------------------------------------------
-- Recording all that comes in
-----------------------------------------------------------------------------------------

namespace Recorder

/-- The same recorder without a timeout and without a rate. -/
def unbound (recorder : Recorder α) : Recorder α :=
  { recorder with
    limits := { recorder.limits with timeout := none, bytesPerSecond := 0 }
    bucket := none }

/-- A cap lets as much into it, so the same is written. -/
theorem write_unbound (recorder : Recorder α) (bytes : Bytes) (digested : Bool)
    : recorder.unbound.write bytes digested
      = ((recorder.write bytes digested).1.unbound, (recorder.write bytes digested).2) := by
  have isOpen : recorder.unbound.isOpen = recorder.isOpen := rfl
  rw [write, write, isOpen]
  split
  · rfl
  · rfl

/-- Writing puts bytes behind what is recorded, and lets the body begin where it did. -/
structure Extends (before after : Recorder α) : Prop where
  atEnd : after.spool.IsAtEnd
  isPrefix : before.spool.bytes <+: after.spool.bytes
  contentBegin : after.contentBegin = before.contentBegin

namespace Extends

variable {before after last : Recorder α}

theorem refl {recorder : Recorder α} (atEnd : recorder.spool.IsAtEnd)
    : recorder.Extends recorder where
  atEnd := atEnd
  isPrefix := List.prefix_refl _
  contentBegin := rfl

theorem trans (early : before.Extends after) (late : after.Extends last)
    : before.Extends last where
  atEnd := late.atEnd
  isPrefix := early.isPrefix.trans late.isPrefix
  contentBegin := late.contentBegin.trans early.contentBegin

/-- Tokens and bounds have no part in it. -/
theorem of_unbound (extends' : before.unbound.Extends after) : before.Extends after :=
  { extends' with }

theorem withBucket (extends' : before.Extends after) (bucket : Option (TokenBucket α))
    : before.Extends { after with bucket } :=
  { extends' with }

/-- What is replayed has grown by some bytes. -/
theorem exists_replay (extends' : before.Extends after)
    : ∃ bytes, after.replay.1 = before.replay.1 ++ bytes := by
  obtain ⟨bytes, grown⟩ := extends'.isPrefix
  refine ⟨bytes, ?_⟩
  rw [replay, replay, Spool.replay_fst, Spool.replay_fst, grown]

theorem write (atEnd : before.spool.IsAtEnd) (bytes : Bytes) (digested : Bool)
    : before.Extends (before.write bytes digested).1 := by
  unfold Recorder.write
  split
  · exact {
      atEnd := Spool.isAtEnd_write atEnd _
      isPrefix := by
        rw [Spool.bytes_write atEnd]
        exact List.prefix_append _ _
      contentBegin := rfl
    }
  · exact .refl atEnd

end Extends

/-- What becomes of a recorder with everything that comes in, if no wait is cut short: chunks are
written up to the declared length, the cap or the end of the stream, or for ever up to a stall.
-/
def takeIn (declared : Option Nat) (recorder : Recorder α) : Stream → Recorder α
  | [] => recorder
  | .stall :: _ => recorder
  | .failure _ :: _ => recorder
  | .pause _ :: rest => recorder.takeIn declared rest
  | .chunk bytes :: rest =>
    if bytes.isEmpty then recorder.takeIn declared rest
    else
      let (written, result) := recorder.write (recorder.withinDeclared declared bytes) true
      match result with
      | .error _ => written
      | .ok () => if written.isFilled declared then written else written.takeIn declared rest

/-- By induction on the stream. -/
theorem extends_takeIn (declared : Option Nat) {recorder : Recorder α}
    (atEnd : recorder.spool.IsAtEnd) (stream : Stream)
    : recorder.Extends (recorder.takeIn declared stream) := by
  induction stream generalizing recorder with
  | nil => exact .refl atEnd
  | cons event rest ih =>
      cases event with
      | stall => exact .refl atEnd
      | failure why => exact .refl atEnd
      | pause nanos => exact ih atEnd
      | chunk bytes =>
          have written := Extends.write atEnd (recorder.withinDeclared declared bytes) true
          unfold takeIn
          split
          · exact ih atEnd
          · dsimp only
            split
            · exact written
            · split
              · exact written
              · exact written.trans (ih written.atEnd)

namespace Writes

variable {recorder written : Recorder α} {declared : Option Nat} {bytes : Bytes}

/-- A chunk of which the cap drops some is the last one. -/
theorem takeIn_of_refused {why : RecordError}
    (writes : recorder.Writes declared bytes written (.error why)) (rest : Stream)
    : recorder.takeIn declared (.chunk bytes :: rest) = written := by
  simp only [takeIn, List.isEmpty_iff, writes.nonempty, if_false, writes.wrote]

/-- Any other one is the last one if it fills the body. -/
theorem takeIn_of_written (writes : recorder.Writes declared bytes written (.ok ()))
    (rest : Stream)
    : recorder.takeIn declared (.chunk bytes :: rest)
      = if written.isFilled declared then written else written.takeIn declared rest := by
  simp only [takeIn, List.isEmpty_iff, writes.nonempty, if_false, writes.wrote]

end Writes

end Recorder

/-- Bytes for which no rate asks anything are paid for at once. -/
theorem Course.pay_of_unpaced [Tokens α] {course : Course α}
    (unpaced : course.recorder.bucket = none) (guard : Guard) (count : Nat)
    : course.pay guard count = .ok course := by
  simp only [pay, unpaced]

/-- Reading on without a guard and without a rate leads to that. -/
theorem Course.keeps_takeIn [Tokens α] (declared : Option Nat) (final : Recorder α)
    : Keeps ⟨none, none⟩ declared
        (fun course _ stream =>
          course.recorder.bucket = none ∧ course.recorder.takeIn declared stream = final)
        fun reading => reading.recorder = final where
  late _ cut := absurd rfl (cut _)
  stalls inv := (recorder_interrupted _ _ _).trans inv.2
  ends inv _ := inv.2
  fails inv _ := inv.2
  pause inv := inv
  further := by
    rintro course grown pauses moment bytes rest ⟨unpaced, rfl⟩ - absorbed
    obtain ⟨rfl, rfl⟩ | ⟨written, writes, payment, unfilled⟩ := cases_of_absorb_ok absorbed
    · exact ⟨unpaced, rfl⟩
    · have free : written.bucket = none := writes.bucket.trans unpaced
      rw [pay_of_unpaced free] at payment
      cases payment
      refine ⟨free, ?_⟩
      rw [← recorder_proceed course moment pauses, writes.takeIn_of_written]
      exact (if_neg (Bool.eq_false_iff.mp unfilled)).symm
  last := by
    rintro course reading pauses moment bytes rest ⟨unpaced, rfl⟩ - absorbed
    rw [← recorder_proceed course moment pauses]
    obtain ⟨written, ⟨why, writes, rfl⟩ | ⟨writes, payment⟩⟩ := cases_of_absorb_error absorbed
    · exact (writes.takeIn_of_refused rest).symm
    · have free : written.bucket = none := writes.bucket.trans unpaced
      rw [pay_of_unpaced free] at payment
      obtain unpaid | ⟨paid, payment, filled, rfl⟩ := payment
      · cases unpaid
      · cases payment
        rw [writes.takeIn_of_written]
        exact (if_pos filled).symm

namespace Recorder

-----------------------------------------------------------------------------------------
-- Recording under bounds
-----------------------------------------------------------------------------------------

/-- What comes of a recorder without bounds extends it, too. -/
theorem extends_takeIn_unbound (declared : Option Nat) {recorder : Recorder α}
    (atEnd : recorder.spool.IsAtEnd) (stream : Stream)
    : recorder.Extends (recorder.unbound.takeIn declared stream) :=
  .of_unbound (@extends_takeIn α declared recorder.unbound atEnd stream)

namespace Writes

variable {recorder written : Recorder α} {declared : Option Nat} {bytes : Bytes}

/-- The same is written without bounds. -/
theorem unbound {result : Except RecordError Unit}
    (writes : recorder.Writes declared bytes written result)
    : recorder.unbound.Writes declared bytes written.unbound result where
  nonempty := writes.nonempty
  wrote := by
    change recorder.unbound.write (recorder.withinDeclared declared bytes) true = _
    rw [write_unbound, writes.wrote]

theorem extends' {result : Except RecordError Unit}
    (writes : recorder.Writes declared bytes written result) (atEnd : recorder.spool.IsAtEnd)
    : recorder.Extends written := by
  have extends' := Extends.write atEnd (recorder.withinDeclared declared bytes) true
  rwa [writes.wrote] at extends'

end Writes

/-- A recorder that a read from `before` on has come to, and that without bounds would come to
`final` with what is left of the stream.
-/
structure IsOnWay (before final : Recorder α) (declared : Option Nat) (recorder : Recorder α)
    (stream : Stream)
    : Prop where
  behind : before.Extends recorder
  onward : recorder.unbound.takeIn declared stream = final

/-- Each step of a read under a guard is one on the way to what comes of it without bounds. -/
theorem carries_isOnWay (before final : Recorder α) (guard : Guard) (declared : Option Nat)
    : Carries guard declared
        (fun recorder _ stream => before.IsOnWay final declared recorder stream)
        fun recorder _ _ => before.Extends recorder ∧ recorder.Extends final := by
  have stops {recorder : Recorder α} {stream : Stream}
      (way : before.IsOnWay final declared recorder stream)
      : before.Extends recorder ∧ recorder.Extends final := by
    refine ⟨way.behind, ?_⟩
    rw [← way.onward]
    exact extends_takeIn_unbound declared way.behind.atEnd stream
  have written {recorder written : Recorder α} {bytes : Bytes} {rest : Stream}
      (bucket : Option (TokenBucket α))
      (way : before.IsOnWay final declared recorder (.chunk bytes :: rest))
      (writes : recorder.Writes declared bytes written (.ok ()))
      : before.Extends { written with bucket }
        ∧ Recorder.Extends { written with bucket } final := by
    have extends' := writes.extends' way.behind.atEnd
    refine ⟨(way.behind.trans extends').withBucket bucket, ?_⟩
    rw [← way.onward, writes.unbound.takeIn_of_written]
    split
    · exact { atEnd := extends'.atEnd, isPrefix := List.prefix_refl _, contentBegin := rfl }
    · exact { extends_takeIn_unbound declared extends'.atEnd rest with }
  exact {
    cut := fun way _ => stops way
    ends := fun way _ => stops way
    fails := fun way _ => stops way
    pause := fun way => { way with }
    empty := fun way _ => { way with }
    refused := fun way _ writes => by
      have extends' := writes.extends' way.behind.atEnd
      refine ⟨way.behind.trans extends', ?_⟩
      rw [← way.onward, writes.unbound.takeIn_of_refused]
      exact .of_unbound (.refl extends'.atEnd)
    unpaid := fun bucket way _ writes _ _ => written bucket way writes
    filled := fun bucket way _ writes _ _ => written bucket way writes
    further := fun bucket way _ writes _ _ unfilled => {
      behind := (written bucket way writes).1
      onward := by
        rw [← way.onward, writes.unbound.takeIn_of_written]
        exact (if_neg (Bool.eq_false_iff.mp unfilled)).symm
    }
  }

/-- Without bounds all that comes in is recorded, and nothing if the body is filled from the start.
-/
theorem recorder_read_unbound [Tokens α] (recorder : Recorder α) (now : Instant)
    (declared : Option Nat) (stream : Stream)
    : (recorder.unbound.read now none declared stream).recorder
      = if recorder.isFilled declared then recorder.unbound
        else recorder.unbound.takeIn declared stream := by
  have keeps : Course.Keeps ⟨none, recorder.unbound.deadline?⟩ declared _ _ :=
    Course.keeps_takeIn declared
      (if recorder.isFilled declared then recorder.unbound
        else recorder.unbound.takeIn declared stream)
  apply keeps.read
  · rintro ⟨deadline, due, -⟩
    cases due
  · exact fun filled => (if_pos filled).symm
  · exact fun unfilled => ⟨rfl, (if_neg (Bool.eq_false_iff.mp unfilled)).symm⟩

/-- A read records a first part of what it would record without a timeout, a cancellation and a
rate, behind what was recorded before.
-/
theorem read_extends_unbound [Tokens α] {recorder : Recorder α} (atEnd : recorder.spool.IsAtEnd)
    (now : Instant) (cancelAt : Option Instant) (declared : Option Nat) (stream : Stream)
    : let reading := recorder.read now cancelAt declared stream
      recorder.Extends reading.recorder
      ∧ reading.recorder.Extends (recorder.unbound.read now none declared stream).recorder := by
  intro reading
  let final := (recorder.unbound.read now none declared stream).recorder
  have unbound := recorder.recorder_read_unbound now declared stream
  have whole : recorder.Extends final := by
    simp only [final, unbound]
    split
    · exact .of_unbound (.refl atEnd)
    · exact extends_takeIn_unbound declared atEnd stream
  exact (carries_isOnWay recorder final _ declared).read
    (fun _ => ⟨.refl atEnd, whole⟩) (fun _ => ⟨.refl atEnd, whole⟩)
    fun unfilled => {
      behind := .refl atEnd
      onward := by simp only [final, unbound, unfilled, Bool.false_eq_true, if_false]
    }

end Recorder

end WebHarvest.Recording
