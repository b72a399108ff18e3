import WebHarvest.Proofs.Recording.Contents
import WebHarvest.Proofs.Recording.Pulling

/-! A read records a first part of the bytes that come in, and all of them up to the declared length
if nothing cuts it short.
-/

namespace WebHarvest.Recording

open Clock (Instant)

namespace Course

variable {α : Type}

-----------------------------------------------------------------------------------------
-- Waiting has no part in what is recorded
-----------------------------------------------------------------------------------------

@[simp]
theorem recorder_proceed (course : Course α) (moment : Instant) (pauses : List Instant)
    : (course.proceed moment pauses).recorder = course.recorder :=
  rfl

@[simp]
theorem recorder_breakOff (course : Course α) (moment : Instant) (pauses : List Instant)
    : (course.breakOff moment pauses).recorder = course.recorder := by
  unfold breakOff
  split <;> rfl

@[simp]
theorem recorder_interrupted (course : Course α) (pauses : List Instant) (wait : Clock.Wait)
    : (course.interrupted pauses wait).recorder = course.recorder := by
  cases wait <;> simp [interrupted, finish]

/-- A wait that did not end with its event does not complete a reading, by cases of the wait. -/
theorem interrupted_incomplete (course : Course α) (pauses : List Instant) {wait : Clock.Wait}
    (cut : ∀ moment, wait ≠ .event moment)
    : (course.interrupted pauses wait).ending ≠ .complete := by
  cases wait with
  | event moment => exact absurd rfl (cut moment)
  | cancelled moment => simp [interrupted, finish]
  | expired moment => simp [interrupted, finish]
  | never => simp [interrupted]

variable [Tokens α]

/-- Paying for bytes changes the recorder's tokens only. -/
theorem recorder_of_pay_ok {course paid : Course α} {guard : Clock.Guard} {count : Nat}
    (payment : course.pay guard count = .ok paid)
    : ∃ bucket, paid.recorder = { course.recorder with bucket } := by
  obtain ⟨-, rfl⟩ | ⟨bucket, moment, -, -, rfl⟩ := cases_of_pay_ok payment
  · exact ⟨paid.recorder.bucket, rfl⟩
  · exact ⟨_, recorder_breakOff _ _ _⟩

/-- A payment under which the reading ended leaves what was recorded, and does not complete the
reading.
-/
theorem recorder_of_pay_error {course : Course α} {guard : Clock.Guard} {count : Nat}
    {reading : Reading α} (payment : course.pay guard count = .error reading)
    : (∃ bucket, reading.recorder = { course.recorder with bucket })
      ∧ reading.ending ≠ .complete := by
  obtain ⟨bucket, due, -, cut, rfl⟩ := cases_of_pay_error payment
  exact ⟨⟨some bucket, recorder_interrupted _ _ _⟩, interrupted_incomplete _ _ cut⟩

end Course

-----------------------------------------------------------------------------------------
-- The declared length
-----------------------------------------------------------------------------------------

/-- The first part of some bytes that does not go beyond the declared length if it comes in behind a
body.
-/
def withinLength (declared : Option Nat) (body bytes : Bytes) : Bytes :=
  declared.elim bytes fun length => bytes.take (length - body.length)

/-- A body is as long as declared, or longer. -/
def ReachesLength (declared : Option Nat) (body : Bytes) : Prop :=
  ∃ length ∈ declared, length ≤ body.length

theorem withinLength_isPrefix (declared : Option Nat) (body bytes : Bytes)
    : withinLength declared body bytes <+: bytes := by
  cases declared with
  | none => exact List.prefix_refl _
  | some length => exact List.take_prefix _ _

@[simp]
theorem withinLength_nil (declared : Option Nat) (body : Bytes)
    : withinLength declared body [] = [] :=
  List.prefix_nil.mp (withinLength_isPrefix declared body [])

/-- Nothing fits behind a body that reaches the declared length. -/
theorem withinLength_of_reaches {declared : Option Nat} {body : Bytes}
    (reached : ReachesLength declared body) (bytes : Bytes)
    : withinLength declared body bytes = [] := by
  obtain ⟨length, rfl, reached⟩ := reached
  simp [withinLength, Nat.sub_eq_zero_of_le reached]

/-- If the part of a chunk that fits reaches the declared length, nothing behind the chunk fits. -/
theorem withinLength_append_of_reaches {declared : Option Nat} {body bytes : Bytes}
    (reached : ReachesLength declared (body ++ withinLength declared body bytes))
    (incoming : Bytes)
    : withinLength declared body (bytes ++ incoming) = withinLength declared body bytes := by
  obtain ⟨length, rfl, reached⟩ := reached
  simp only [withinLength, Option.elim_some, List.length_append, List.length_take] at reached ⊢
  exact List.take_append_of_le_length (by omega)

/-- If the part of a chunk that fits does not reach the declared length, all of the chunk fits. -/
theorem withinLength_eq_self {declared : Option Nat} {body bytes : Bytes}
    (short : ¬ReachesLength declared (body ++ withinLength declared body bytes))
    : withinLength declared body bytes = bytes := by
  cases declared with
  | none => rfl
  | some length =>
      have short : body.length + min (length - body.length) bytes.length < length := by
        simpa [ReachesLength, withinLength] using short
      exact List.take_of_length_le (by omega)

/-- Behind a chunk that fits, what fits is counted from the longer body on. -/
theorem withinLength_append {declared : Option Nat} {body bytes : Bytes}
    (fits : withinLength declared body bytes = bytes) (incoming : Bytes)
    : withinLength declared body (bytes ++ incoming)
      = bytes ++ withinLength declared (body ++ bytes) incoming := by
  cases declared with
  | none => rfl
  | some length =>
      have fits : bytes.take (length - body.length) = bytes := fits
      simp only [withinLength, Option.elim_some, List.take_append, fits, List.length_append,
        Nat.sub_sub]

-----------------------------------------------------------------------------------------
-- What a read records
-----------------------------------------------------------------------------------------

variable {α : Type} {recorder : Recorder α} {limits : Limits}
  {algorithm : Option DigestAlgorithm} {envelope body : Bytes}

/-- A recorder is filled if the body that it holds reaches the declared length. -/
theorem Recorder.Holds.isFilled_iff (holds : recorder.Holds limits algorithm envelope body)
    {declared : Option Nat}
    : recorder.isFilled declared = true ↔ ReachesLength declared body := by
  unfold Recorder.isFilled
  rw [holds.bodySize]
  cases declared <;> simp [ReachesLength]

/-- The part of a chunk within the declared length is counted from the body held. -/
theorem Recorder.Holds.withinDeclared (holds : recorder.Holds limits algorithm envelope body)
    (declared : Option Nat) (bytes : Bytes)
    : recorder.withinDeclared declared bytes = withinLength declared body bytes := by
  unfold Recorder.withinDeclared withinLength
  rw [holds.bodySize]
  cases declared <;> rfl

/-- Of a chunk a first part is recorded, and if nothing is refused, all that fits. -/
theorem Recorder.Holds.writes (holds : recorder.Holds limits algorithm envelope body)
    {written : Recorder α} {declared : Option Nat} {bytes : Bytes}
    {result : Except RecordError Unit}
    (writes : recorder.Writes declared bytes written result)
    : ∃ part,
        written.Holds limits algorithm envelope (body ++ part)
        ∧ part <+: withinLength declared body bytes
        ∧ (result = .ok () → part = withinLength declared body bytes) := by
  have wrote := writes.wrote
  have held := holds.write (withinLength declared body bytes)
  rw [holds.withinDeclared] at wrote
  rw [wrote] at held
  refine ⟨_, held, accepted_isPrefix _ _, ?_⟩
  rintro rfl
  exact accepted_of_write_ok (congrArg Prod.snd wrote)

/-- A reading from a recorder that held an envelope and a body has recorded a first part of the
bytes that come in, behind the body; if it is complete, all of them up to the declared length.
-/
structure Reading.Extends (reading : Reading α) (limits : Limits)
    (algorithm : Option DigestAlgorithm) (envelope body : Bytes) (declared : Option Nat)
    (incoming kept : Bytes)
    : Prop where
  holds : reading.recorder.Holds limits algorithm envelope (body ++ kept)
  isPrefix : kept <+: incoming
  whole : reading.ending = .complete → kept = withinLength declared body incoming

/-- A course from such a recorder is on its way: it has recorded a first part of the bytes that come
in, all of which fits, and the stream brings the others.
-/
structure Course.IsMidway (course : Course α) (limits : Limits)
    (algorithm : Option DigestAlgorithm) (envelope body : Bytes) (declared : Option Nat)
    (incoming : Bytes) (stream : Stream) (kept : Bytes)
    : Prop where
  holds : course.recorder.Holds limits algorithm envelope (body ++ kept)
  fits : withinLength declared body kept = kept
  others : kept ++ stream.body = incoming

namespace Course.IsMidway

variable {course : Course α} {declared : Option Nat} {bytes incoming kept : Bytes}

/-- A reading that ends on its way without being complete. -/
theorem cut {stream : Stream} {reading : Reading α}
    (midway : course.IsMidway limits algorithm envelope body declared incoming stream kept)
    (same : reading.recorder = course.recorder) (incomplete : reading.ending ≠ .complete)
    : reading.Extends limits algorithm envelope body declared incoming kept where
  holds := same ▸ midway.holds
  isPrefix := ⟨stream.body, midway.others⟩
  whole complete := absurd complete incomplete

variable [Tokens α] {guard : Clock.Guard} {rest : Stream}

/-- A chunk that does not end the reading is recorded whole. -/
theorem further {grown : Course α}
    (midway
      : course.IsMidway limits algorithm envelope body declared incoming (.chunk bytes :: rest)
          kept)
    (absorbed : course.absorb guard declared bytes = .ok grown)
    : grown.IsMidway limits algorithm envelope body declared incoming rest (kept ++ bytes) := by
  have others : (kept ++ bytes) ++ rest.body = incoming :=
    (List.append_assoc _ _ _).trans midway.others
  obtain ⟨rfl, rfl⟩ | ⟨written, writes, payment, unfilled⟩ := cases_of_absorb_ok absorbed
  · rw [List.append_nil] at others ⊢
    exact { midway with others }
  · obtain ⟨part, held, -, allIn⟩ := midway.holds.writes writes
    obtain ⟨bucket, recorder⟩ := recorder_of_pay_ok payment
    have holds : grown.recorder.Holds limits algorithm envelope ((body ++ kept) ++ part) :=
      recorder ▸ held.withBucket bucket
    rw [allIn rfl] at holds
    have whole : withinLength declared (body ++ kept) bytes = bytes :=
      withinLength_eq_self (mt holds.isFilled_iff.mpr (Bool.eq_false_iff.mp unfilled))
    rw [whole, List.append_assoc] at holds
    exact { holds, others, fits := by rw [withinLength_append midway.fits, whole] }

/-- A chunk that ends the reading is recorded in part: the cap drops some of it, or what is behind
the part does not fit.
-/
theorem last {reading : Reading α}
    (midway
      : course.IsMidway limits algorithm envelope body declared incoming (.chunk bytes :: rest)
          kept)
    (absorbed : course.absorb guard declared bytes = .error reading)
    : ∃ kept, reading.Extends limits algorithm envelope body declared incoming kept := by
  obtain ⟨written, why⟩ := cases_of_absorb_error absorbed
  have ofPart {part : Bytes} (isPrefix : part <+: withinLength declared (body ++ kept) bytes)
      : kept ++ part <+: incoming := by
    rw [← midway.others, List.prefix_append_right_inj]
    exact (isPrefix.trans (withinLength_isPrefix _ _ _)).trans (List.prefix_append _ _)
  obtain ⟨error, writes, rfl⟩ | ⟨writes, payment⟩ := why
  · obtain ⟨part, held, isPrefix, -⟩ := midway.holds.writes writes
    rw [List.append_assoc] at held
    exact ⟨kept ++ part, held, ofPart isPrefix, nofun⟩
  · obtain ⟨part, held, isPrefix, allIn⟩ := midway.holds.writes writes
    rcases payment with unpaid | ⟨paid, payment, filled, rfl⟩
    · obtain ⟨⟨bucket, recorder⟩, incomplete⟩ := recorder_of_pay_error unpaid
      have holds := held.withBucket bucket
      rw [List.append_assoc] at holds
      exact ⟨kept ++ part, recorder ▸ holds, ofPart isPrefix,
        fun complete => absurd complete incomplete⟩
    · obtain ⟨bucket, recorder⟩ := recorder_of_pay_ok payment
      have holds : paid.recorder.Holds limits algorithm envelope ((body ++ kept) ++ part) :=
        recorder ▸ held.withBucket bucket
      have whole : part = withinLength declared (body ++ kept) (bytes ++ rest.body) := by
        have reached := holds.isFilled_iff.mp filled
        rw [allIn rfl] at reached ⊢
        exact (withinLength_append_of_reaches reached rest.body).symm
      rw [List.append_assoc] at holds
      refine ⟨kept ++ part, holds, ofPart isPrefix, fun _ => ?_⟩
      rw [← midway.others, withinLength_append midway.fits, whole]
      rfl

end Course.IsMidway

variable [Tokens α]

/-- Reading on stays on its way until it ends. -/
theorem Course.keeps_isMidway (limits : Limits) (algorithm : Option DigestAlgorithm)
    (envelope body : Bytes) (guard : Clock.Guard) (declared : Option Nat) (incoming : Bytes)
    : Keeps guard declared
        (fun (course : Course α) _ stream =>
          ∃ kept, course.IsMidway limits algorithm envelope body declared incoming stream kept)
        (fun reading =>
          ∃ kept, reading.Extends limits algorithm envelope body declared incoming kept) where
  late := by
    rintro course pauses stream ⟨kept, midway⟩ cut
    exact ⟨kept, midway.cut (recorder_interrupted _ _ _) (interrupted_incomplete _ _ cut)⟩
  stalls := by
    rintro course pauses rest ⟨kept, midway⟩
    have cut := guard.await_none_ne_event course.now
    exact ⟨kept, midway.cut (recorder_interrupted _ _ _) (interrupted_incomplete _ _ cut)⟩
  ends := by
    rintro course pauses moment ⟨kept, midway⟩ -
    have all : kept = incoming := (List.append_nil kept).symm.trans midway.others
    exact ⟨kept, midway.holds, all ▸ List.prefix_refl kept, fun _ => all ▸ midway.fits.symm⟩
  fails := by
    rintro course pauses moment why rest ⟨kept, midway⟩ -
    exact ⟨kept, midway.cut rfl nofun⟩
  pause := by
    rintro course pauses nanos rest ⟨kept, midway⟩
    exact ⟨kept, { midway with }⟩
  further := by
    rintro course grown pauses moment bytes rest ⟨kept, midway⟩ - absorbed
    have midway : (course.proceed moment pauses).IsMidway _ _ _ _ _ _ _ kept := { midway with }
    exact ⟨kept ++ bytes, midway.further absorbed⟩
  last := by
    rintro course reading pauses moment bytes rest ⟨kept, midway⟩ - absorbed
    have midway : (course.proceed moment pauses).IsMidway _ _ _ _ _ _ _ kept := { midway with }
    exact midway.last absorbed

/-- A read records a first part of what comes in. One from a recorder that is filled already records
nothing.
-/
theorem Recorder.read_extends (holds : recorder.Holds limits algorithm envelope body)
    (now : Instant) (cancelAt : Option Instant) (declared : Option Nat) (stream : Stream)
    : ∃ kept,
        (recorder.read now cancelAt declared stream).Extends limits algorithm envelope body
          declared stream.body kept := by
  have held : recorder.Holds limits algorithm envelope (body ++ []) := by simpa using holds
  apply (Course.keeps_isMidway _ _ _ _ _ declared _).read
  · exact fun _ => ⟨[], held, List.nil_prefix, nofun⟩
  · intro filled
    have reached := holds.isFilled_iff.mp filled
    exact ⟨[], held, List.nil_prefix, fun _ => (withinLength_of_reaches reached _).symm⟩
  · exact fun _ => ⟨[], { holds := held, fits := withinLength_nil _ _, others := rfl }⟩

end WebHarvest.Recording
