import WebHarvest.Proofs.Recording.BodyPrefix
import WebHarvest.Proofs.Recording.ReadEnds

/-! How a body is cut into chunks does not matter to its recording: without a guard and without a
rate, what is recorded and how the read ends depend on the bytes before the first failure and on
that failure only.
-/

namespace WebHarvest.Recording

open Clock (Instant)

-----------------------------------------------------------------------------------------
-- Recorders that gain bytes
-----------------------------------------------------------------------------------------

namespace Recorder

variable {α : Type} {before after last : Recorder α}

/-- One recorder is the other one with more body bytes, written behind all bytes and digested. -/
structure Gains (before after : Recorder α) (bytes : Bytes) : Prop where
  spooled : after.spool.bytes = before.spool.bytes ++ bytes
  atEnd : after.spool.IsAtEnd
  otherwise
    : after
      = { before with
          spool := after.spool
          size := before.size + bytes.length
          hasher := before.hasher.map (·.update bytes) }

/-- A recorder gains no bytes over itself. -/
theorem Gains.refl {recorder : Recorder α} (atEnd : recorder.spool.IsAtEnd)
    : recorder.Gains recorder [] where
  spooled := (List.append_nil _).symm
  atEnd := atEnd
  otherwise := by simp

/-- Bytes that are gained one after the other are gained together. -/
theorem Gains.trans {first second : Bytes} (early : before.Gains after first)
    (late : after.Gains last second)
    : before.Gains last (first ++ second) where
  spooled := by rw [late.spooled, early.spooled, List.append_assoc]
  atEnd := late.atEnd
  otherwise := by
    have changed := late.otherwise
    rw [early.otherwise] at changed
    simpa [Nat.add_assoc, Function.comp_def] using changed

theorem Gains.limits {bytes : Bytes} (gains : before.Gains after bytes)
    : after.limits = before.limits := by
  rw [gains.otherwise]

theorem Gains.bucket {bytes : Bytes} (gains : before.Gains after bytes)
    : after.bucket = before.bucket := by
  rw [gains.otherwise]

theorem Gains.isOpen {bytes : Bytes} (gains : before.Gains after bytes)
    : after.isOpen = before.isOpen := by
  rw [gains.otherwise]

theorem Gains.contentBegin {bytes : Bytes} (gains : before.Gains after bytes)
    : after.contentBegin = before.contentBegin := by
  rw [gains.otherwise]

theorem Gains.size {bytes : Bytes} (gains : before.Gains after bytes)
    : after.size = before.size + bytes.length := by
  rw [gains.otherwise]

/-- The body grows by the bytes gained. -/
theorem Gains.bodySize {bytes : Bytes} (gains : before.Gains after bytes)
    (started : before.contentBegin ≤ before.size)
    : after.bodySize = before.bodySize + bytes.length := by
  rw [Recorder.bodySize, gains.size, gains.contentBegin, Recorder.bodySize]
  omega

/-- What is replayed grows by the bytes gained. -/
theorem Gains.replay {bytes : Bytes} (gains : before.Gains after bytes)
    : after.replay.1 = before.replay.1 ++ bytes :=
  (Spool.replay_fst _).trans
    (gains.spooled.trans (congrArg (· ++ bytes) (Spool.replay_fst _).symm))

/-- Closing finishes the digest of the bytes gained before. -/
theorem Gains.digest_close {bytes : Bytes} (gains : before.Gains after bytes)
    (isOpen : before.isOpen = true)
    : after.close.digest
      = (before.hasher.map fun hasher => (hasher.update bytes).finish).or before.digest := by
  rw [gains.otherwise]
  simp [close, isOpen, Function.comp_def]

/-- An open recorder gains of some bytes as many as the cap lets in. -/
theorem Gains.write {recorder : Recorder α} (isOpen : recorder.isOpen = true)
    (atEnd : recorder.spool.IsAtEnd) (bytes : Bytes)
    : recorder.Gains (recorder.write bytes true).1
        (bytes.take (recorder.admitted bytes.length)) := by
  have count := recorder.length_take_admitted bytes
  simp only [Recorder.write, isOpen, if_true]
  exact {
    spooled := Spool.bytes_write atEnd _
    atEnd := Spool.isAtEnd_write atEnd _
    otherwise := by simp [count, isOpen]
  }

/-- Writing to an open recorder fails if the cap does not let all bytes in. -/
theorem write_snd {recorder : Recorder α} (isOpen : recorder.isOpen = true) (bytes : Bytes)
    (digested : Bool)
    : (recorder.write bytes digested).2
      = if recorder.admitted bytes.length < bytes.length then
          .error (.lengthExceeded recorder.limits.hardMax)
        else .ok () := by
  rw [Recorder.write, isOpen, if_pos rfl]

-----------------------------------------------------------------------------------------
-- What comes of all bytes at once
-----------------------------------------------------------------------------------------

/-- What is recorded of the bytes that come in, were they written at once. -/
def recorded (recorder : Recorder α) (declared : Option Nat) (incoming : Bytes) : Bytes :=
  let fitting := recorder.withinDeclared declared incoming
  fitting.take (recorder.admitted fitting.length)

/-- How reading ends if some bytes come in, and then a failure or the end of the stream: at the cap,
at the declared length, or with the stream.
-/
def outcome (recorder : Recorder α) (declared : Option Nat) (incoming : Bytes)
    (failure? : Option String)
    : ReadEnd :=
  let fitting := recorder.withinDeclared declared incoming
  if recorder.admitted fitting.length < fitting.length then
    .failed (.lengthExceeded recorder.limits.hardMax)
  else if declared.any (· ≤ recorder.bodySize + incoming.length) then .complete
  else failure?.elim .complete fun why => .failed (.stream why)

/-- Nothing is recorded of nothing. -/
@[simp]
theorem recorded_nil (recorder : Recorder α) (declared : Option Nat)
    : recorder.recorded declared [] = [] := by
  cases declared <;> simp [recorded, withinDeclared]

/-- If nothing comes in, reading ends as the stream does unless the body is filled. -/
theorem outcome_nil {recorder : Recorder α} {declared : Option Nat}
    (unfilled : recorder.isFilled declared = false) (failure? : Option String)
    : recorder.outcome declared [] failure?
      = failure?.elim .complete fun why => .failed (.stream why) := by
  have nothing : recorder.withinDeclared declared [] = [] := by
    cases declared <;> simp [withinDeclared]
  have unfilled : declared.any (· ≤ recorder.bodySize) = false := unfilled
  simp [outcome, nothing, unfilled]

/-- The cap lets no more in of more bytes if it drops some of fewer. -/
theorem admitted_of_dropped {recorder : Recorder α} {count : Nat}
    (dropped : recorder.admitted count < count) (more : Nat)
    : recorder.admitted (count + more) = recorder.admitted count := by
  unfold admitted at dropped ⊢
  split
  · simp_all only [if_true]
    omega
  · simp_all

/-- Behind bytes that the cap lets in, it lets in as many as it does of both together. -/
theorem Gains.admitted {bytes : Bytes} (gains : before.Gains after bytes)
    (allIn : before.admitted bytes.length = bytes.length) (more : Nat)
    : before.admitted (bytes.length + more) = bytes.length + after.admitted more := by
  unfold Recorder.admitted at allIn ⊢
  rw [gains.limits, gains.size]
  split
  · simp_all only [if_true]
    omega
  · rfl

/-- Behind bytes that are not filled up to the declared length, what fits is counted from the longer
body on.
-/
theorem Gains.withinDeclared {bytes : Bytes} (gains : before.Gains after bytes)
    (started : before.contentBegin ≤ before.size) {declared : Option Nat}
    (fits : before.withinDeclared declared bytes = bytes) (more : Bytes)
    : before.withinDeclared declared (bytes ++ more)
      = bytes ++ after.withinDeclared declared more := by
  cases declared with
  | none => rfl
  | some length =>
      have fits : bytes.take (length - before.bodySize) = bytes := fits
      simp only [Recorder.withinDeclared, List.take_append, fits, gains.bodySize started,
        Nat.sub_sub]

/-- If the cap drops some of a chunk that comes in, it drops all that comes behind the chunk. -/
theorem outcome_of_dropped {recorder : Recorder α} {declared : Option Nat} {bytes : Bytes}
    (dropped
      : recorder.admitted (recorder.withinDeclared declared bytes).length
        < (recorder.withinDeclared declared bytes).length)
    (more : Bytes) (failure? : Option String)
    : recorder.recorded declared (bytes ++ more) = recorder.recorded declared bytes
      ∧ recorder.outcome declared (bytes ++ more) failure?
        = .failed (.lengthExceeded recorder.limits.hardMax) := by
  obtain ⟨rest, fitting⟩
      : ∃ rest,
          recorder.withinDeclared declared (bytes ++ more)
          = recorder.withinDeclared declared bytes ++ rest := by
    cases declared with
    | none => exact ⟨more, rfl⟩
    | some length => exact ⟨_, List.take_append⟩
  have same := admitted_of_dropped dropped rest.length
  simp only [recorded, outcome, fitting, List.length_append, same]
  constructor
  · exact List.take_append_of_le_length (Nat.le_of_lt dropped)
  · exact if_pos (by omega)

/-- If a chunk is recorded as far as it fits, and fills the body up to the declared length, nothing
behind it is recorded.
-/
theorem outcome_of_filled {recorder : Recorder α} {declared : Option Nat} {bytes : Bytes}
    (started : recorder.contentBegin ≤ recorder.size)
    (gains : recorder.Gains after (recorder.withinDeclared declared bytes))
    (allIn
      : recorder.admitted (recorder.withinDeclared declared bytes).length
        = (recorder.withinDeclared declared bytes).length)
    (filled : after.isFilled declared = true) (more : Bytes) (failure? : Option String)
    : recorder.recorded declared (bytes ++ more) = recorder.withinDeclared declared bytes
      ∧ recorder.outcome declared (bytes ++ more) failure? = .complete := by
  cases declared with
  | none => cases filled
  | some length =>
      have grown := gains.bodySize started
      have filled : length ≤ after.bodySize := by simpa [isFilled] using filled
      simp only [Recorder.withinDeclared, List.length_take] at grown
      have fitting
          : recorder.withinDeclared (some length) (bytes ++ more)
            = recorder.withinDeclared (some length) bytes :=
        List.take_append_of_le_length (by omega)
      have reached : length ≤ recorder.bodySize + (bytes ++ more).length := by
        rw [List.length_append]
        omega
      simp only [recorded, outcome, fitting, allIn, Nat.lt_irrefl, if_false, List.take_length,
        Option.any_some, reached, decide_true, if_true, and_self]

/-- If a chunk is recorded, and does not fill the body up to the declared length, all of it is, and
what comes behind it is judged by the recorder that has gained it.
-/
theorem outcome_of_unfilled {recorder : Recorder α} {declared : Option Nat} {bytes : Bytes}
    (started : recorder.contentBegin ≤ recorder.size)
    (gains : recorder.Gains after (recorder.withinDeclared declared bytes))
    (allIn
      : recorder.admitted (recorder.withinDeclared declared bytes).length
        = (recorder.withinDeclared declared bytes).length)
    (unfilled : after.isFilled declared = false) (more : Bytes) (failure? : Option String)
    : recorder.recorded declared (bytes ++ more)
        = recorder.withinDeclared declared bytes ++ after.recorded declared more
      ∧ recorder.outcome declared (bytes ++ more) failure?
        = after.outcome declared more failure? := by
  have fits : recorder.withinDeclared declared bytes = bytes := by
    cases declared with
    | none => rfl
    | some length =>
        have grown := gains.bodySize started
        have unfilled : after.bodySize < length := by simpa [isFilled] using unfilled
        simp only [Recorder.withinDeclared, List.length_take] at grown
        exact List.take_of_length_le (by omega)
  rw [fits] at gains allIn ⊢
  have fitting := gains.withinDeclared started fits more
  have room := gains.admitted allIn (after.withinDeclared declared more).length
  have grown := gains.bodySize started
  simp only [recorded, outcome, fitting, List.length_append, room, gains.limits, grown,
    Nat.add_lt_add_iff_left, Nat.add_assoc, and_true]
  rw [List.take_append, List.take_of_length_le (Nat.le_add_right _ _), Nat.add_sub_cancel_left]

/-- A recorder without a body wants the first bytes that come in, as many as are declared. -/
theorem withinDeclared_of_bodyless {recorder : Recorder α} (noBody : recorder.bodySize = 0)
    (declared : Option Nat) (incoming : Bytes)
    : let wanted := declared.elim incoming.length (min incoming.length)
      recorder.withinDeclared declared incoming = incoming.take wanted
      ∧ (incoming.take wanted).length = wanted := by
  cases declared with
  | none => exact ⟨List.take_length.symm, congrArg List.length List.take_length⟩
  | some length =>
      simp only [withinDeclared, noBody, Nat.sub_zero, Option.elim_some, List.length_take]
      refine ⟨?_, Nat.min_eq_left (Nat.min_le_left _ _)⟩
      rw [List.take_eq_take_min, Nat.min_comm]

end Recorder

-----------------------------------------------------------------------------------------
-- Reading chunk by chunk
-----------------------------------------------------------------------------------------

variable {α : Type}

/-- A recorder that reads on: open, and neither filled up to the declared length nor bound to a
rate.
-/
structure Recorder.ReadsOn (recorder : Recorder α) (declared : Option Nat) : Prop where
  isOpen : recorder.isOpen = true
  started : recorder.contentBegin ≤ recorder.size
  atEnd : recorder.spool.IsAtEnd
  unpaced : recorder.bucket = none
  unfilled : recorder.isFilled declared = false

/-- With the bytes of a chunk it reads on unless they fill it. -/
theorem Recorder.ReadsOn.gains {before after : Recorder α} {declared : Option Nat} {bytes : Bytes}
    (ready : before.ReadsOn declared) (gains : before.Gains after bytes)
    (unfilled : after.isFilled declared = false)
    : after.ReadsOn declared where
  isOpen := gains.isOpen.trans ready.isOpen
  started := by
    rw [gains.contentBegin, gains.size]
    exact Nat.le_add_right_of_le ready.started
  atEnd := gains.atEnd
  unpaced := gains.bucket.trans ready.unpaced
  unfilled := unfilled

/-- What has become of a recorder that was to read what comes in, without a guard: what becomes of
it with all bytes at once.
-/
structure Reading.Records (reading : Reading α) (before : Recorder α) (declared : Option Nat)
    (incoming : Bytes) (failure? : Option String)
    : Prop where
  gains : before.Gains reading.recorder (before.recorded declared incoming)
  ending : reading.ending = before.outcome declared incoming failure?

/-- Where nothing comes in, the recorder stays as it is and reading ends as the stream does. -/
theorem Reading.Records.nothing {reading : Reading α} {recorder : Recorder α}
    {declared : Option Nat} {failure? : Option String} (ready : recorder.ReadsOn declared)
    (same : reading.recorder = recorder)
    (ending : reading.ending = failure?.elim .complete fun why => .failed (.stream why))
    : reading.Records recorder declared [] failure? where
  gains := by
    rw [same, Recorder.recorded_nil]
    exact .refl ready.atEnd
  ending := ending.trans (Recorder.outcome_nil ready.unfilled failure?).symm

/-- Readings that come to the same are alike in all that is told of them. -/
theorem Reading.Records.alike {recorder : Recorder α} {reading again : Reading α}
    {declared : Option Nat} {incoming : Bytes} {failure? : Option String}
    (records : reading.Records recorder declared incoming failure?)
    (recordsToo : again.Records recorder declared incoming failure?)
    (isOpen : recorder.isOpen = true) (started : recorder.contentBegin ≤ recorder.size)
    : again.ending = reading.ending
      ∧ again.recorder.size = reading.recorder.size
      ∧ again.recorder.bodySize = reading.recorder.bodySize
      ∧ again.recorder.replay.1 = reading.recorder.replay.1
      ∧ again.recorder.close.digest = reading.recorder.close.digest := by
  obtain ⟨gains, ending⟩ := records
  obtain ⟨gainsToo, endingToo⟩ := recordsToo
  exact ⟨endingToo.trans ending.symm, gainsToo.size.trans gains.size.symm,
    (gainsToo.bodySize started).trans (gains.bodySize started).symm,
    gainsToo.replay.trans gains.replay.symm,
    (gainsToo.digest_close isOpen).trans (gains.digest_close isOpen).symm⟩

variable [Tokens α]

/-- A chunk comes to what all bytes at once come to if what comes behind it does: a chunk of which
the cap drops some ends the reading as all bytes would, and so does one that fills the body; behind
any other chunk reading goes on with the recorder that has gained it.
-/
theorem Course.records_absorb (course : Course α) {declared : Option Nat} {incoming : Bytes}
    {failure? : Option String} (ready : course.recorder.ReadsOn declared) (guard : Clock.Guard)
    (bytes : Bytes) {next : Course α → Reading α}
    (further
      : ∀ paid : Course α,
          paid.recorder.ReadsOn declared
          → (next paid).Records paid.recorder declared incoming failure?)
    : (match course.absorb guard declared bytes with
        | .ok paid => next paid
        | .error reading => reading).Records
        course.recorder declared (bytes ++ incoming) failure? := by
  by_cases empty : bytes = []
  · subst empty
    exact further course ready
  · have gains := Recorder.Gains.write ready.isOpen ready.atEnd
      (course.recorder.withinDeclared declared bytes)
    have written := Recorder.write_snd ready.isOpen
      (course.recorder.withinDeclared declared bytes) true
    simp only [absorb, List.isEmpty_iff, empty, if_false]
    generalize course.recorder.write (course.recorder.withinDeclared declared bytes) true = result
      at gains written ⊢
    obtain ⟨recorder, result⟩ := result
    dsimp only at gains written ⊢
    subst written
    by_cases dropped
        : course.recorder.admitted (course.recorder.withinDeclared declared bytes).length
          < (course.recorder.withinDeclared declared bytes).length
    · obtain ⟨same, exceeded⟩ := Recorder.outcome_of_dropped dropped incoming failure?
      rw [if_pos dropped]
      exact { gains := same ▸ gains, ending := exceeded.symm }
    · have allIn
          : course.recorder.admitted (course.recorder.withinDeclared declared bytes).length
            = (course.recorder.withinDeclared declared bytes).length :=
        Nat.le_antisymm (Recorder.admitted_le _ _) (Nat.le_of_not_lt dropped)
      have unpaced : recorder.bucket = none := gains.bucket.trans ready.unpaced
      rw [allIn, List.take_length] at gains
      rw [if_neg dropped]
      simp only [pay, unpaced]
      cases filled : recorder.isFilled declared with
      | true =>
          obtain ⟨whole, complete⟩ :=
            Recorder.outcome_of_filled ready.started gains allIn filled incoming failure?
          exact { gains := whole ▸ gains, ending := complete.symm }
      | false =>
          obtain ⟨onward, ending⟩ :=
            Recorder.outcome_of_unfilled ready.started gains allIn filled incoming failure?
          have rest := further { course with recorder } (ready.gains gains filled)
          exact {
            gains := onward ▸ gains.trans rest.gains
            ending := rest.ending.trans ending.symm
          }

/-- Reading on comes to what all bytes at once come to, by induction on the stream. -/
theorem Course.records_pull (declared : Option Nat) (stream : Stream)
    (ends : stream.stalls = false) (course : Course α) (pauses : List Instant)
    (ready : course.recorder.ReadsOn declared)
    : (course.pull ⟨none, none⟩ declared pauses stream).Records course.recorder declared
        stream.body stream.failure? := by
  -- Without a cancellation and a deadline a wait for something that comes ends with it.
  have comes (now moment : Instant)
      : Clock.Guard.await ⟨none, none⟩ now (some moment) = .event moment :=
    rfl
  induction stream generalizing course pauses with
  | nil =>
      rw [pull, comes]
      exact .nothing ready rfl rfl
  | cons event rest ih =>
      cases event with
      | stall => cases ends
      | failure why =>
          rw [pull, comes]
          exact .nothing ready rfl rfl
      | pause nanos => exact ih ends course _ ready
      | chunk bytes =>
          rw [pull_chunk, awaiting, comes]
          exact records_absorb (course.proceed _ pauses) ready _ bytes
            fun paid ready => ih ends paid [] ready

/-- A read without a timeout, a cancellation and a rate comes to what all bytes at once come to; a
body that is filled from the start has room for none of them.
-/
theorem Recorder.records_read {recorder : Recorder α} (isOpen : recorder.isOpen = true)
    (started : recorder.contentBegin ≤ recorder.size) (atEnd : recorder.spool.IsAtEnd)
    (untimed : recorder.limits.timeout = none) (unpaced : recorder.bucket = none)
    (now : Instant) (declared : Option Nat) {stream : Stream} (ends : stream.stalls = false)
    : (recorder.read now none declared stream).Records recorder declared stream.body
        stream.failure? := by
  have undated : recorder.deadline? = none := by rw [deadline?, untimed, Option.map_none]
  simp only [read, undated, Option.any_none, Bool.false_eq_true, if_false]
  cases filled : recorder.isFilled declared with
  | false =>
      exact Course.records_pull declared stream ends ⟨recorder, now, [], []⟩ []
        ⟨isOpen, started, atEnd, unpaced, filled⟩
  | true =>
      have nothing : recorder.withinDeclared declared [] = [] := by
        cases declared <;> simp [withinDeclared]
      have gains : recorder.Gains recorder (recorder.withinDeclared declared []) := by
        rw [nothing]
        exact .refl atEnd
      have allIn := Nat.le_zero.mp (recorder.admitted_le 0)
      obtain ⟨whole, complete⟩ :=
        outcome_of_filled started gains (by rw [nothing]; exact allIn) filled stream.body
          stream.failure?
      exact { gains := whole ▸ gains, ending := complete.symm }

/-- Without a timeout, a cancellation and a rate, a read into an open recorder without a body comes
to the same for every way of cutting what comes in. Of the bytes before the first failure as many
are wanted as are declared. If the cap has no room for them, it is exceeded and the bytes that it
has room for are recorded; otherwise all that are wanted are recorded, and the read is complete
unless the stream fails before as many as declared have come in. Any other stream with the same
bytes and the same failure leaves the same size, the same body and, on closing, the same digest.
-/
theorem Recorder.read_of_chunks {recorder : Recorder α} (isOpen : recorder.isOpen = true)
    (empty : recorder.contentBegin = recorder.size) (atEnd : recorder.spool.IsAtEnd)
    (untimed : recorder.limits.timeout = none) (unpaced : recorder.bucket = none)
    (now : Instant) (declared : Option Nat) {stream : Stream} (ends : stream.stalls = false)
    : let reading := recorder.read now none declared stream
      let incoming := stream.body
      let wanted := declared.elim incoming.length (min incoming.length)
      let room := recorder.limits.hardMax - recorder.size
      (0 < recorder.limits.hardMax ∧ room < wanted
        → reading.ending = .failed (.lengthExceeded recorder.limits.hardMax)
          ∧ reading.recorder.replay.1 = recorder.replay.1 ++ incoming.take room
          ∧ reading.recorder.bodySize = room)
      ∧ (¬(0 < recorder.limits.hardMax ∧ room < wanted)
        → reading.ending
            = (if declared.any (· ≤ incoming.length) then .complete
              else stream.failure?.elim .complete fun why => .failed (.stream why))
          ∧ reading.recorder.replay.1 = recorder.replay.1 ++ incoming.take wanted
          ∧ reading.recorder.bodySize = wanted)
      ∧ reading.recorder.contentBegin = recorder.contentBegin
      ∧ ∀ (moment : Instant) (other : Stream),
          other.stalls = false
          → other.body = stream.body
          → other.failure? = stream.failure?
          → let again := recorder.read moment none declared other
            again.ending = reading.ending
            ∧ again.recorder.size = reading.recorder.size
            ∧ again.recorder.bodySize = reading.recorder.bodySize
            ∧ again.recorder.replay.1 = reading.recorder.replay.1
            ∧ again.recorder.close.digest = reading.recorder.close.digest := by
  intro reading incoming wanted room
  have started : recorder.contentBegin ≤ recorder.size := Nat.le_of_eq empty
  have records (moment : Instant) {stream : Stream} (ends : stream.stalls = false) :=
    records_read isOpen started atEnd untimed unpaced moment declared ends
  have noBody : recorder.bodySize = 0 := Nat.sub_eq_zero_of_le (Nat.le_of_eq empty.symm)
  obtain ⟨fitting, count⟩ := withinDeclared_of_bodyless noBody declared incoming
  obtain ⟨gains, ending⟩ := records now ends
  change recorder.Gains reading.recorder (recorder.recorded declared incoming) at gains
  change reading.ending = recorder.outcome declared incoming stream.failure? at ending
  simp only [recorded, outcome, fitting, count, noBody, Nat.zero_add] at gains ending
  refine ⟨?_, ?_, gains.contentBegin, ?_⟩
  · rintro ⟨capped, short⟩
    have admitted : recorder.admitted wanted = room := by
      rw [Recorder.admitted, if_pos capped]
      exact Nat.min_eq_right (Nat.le_of_lt short)
    rw [admitted, List.take_take, Nat.min_eq_left (Nat.le_of_lt short)] at gains
    rw [admitted, if_pos short] at ending
    refine ⟨ending, gains.replay, ?_⟩
    have atMost : wanted ≤ incoming.length :=
      Nat.le_trans (Nat.le_of_eq count.symm) (List.length_take_le' _ _)
    rw [gains.bodySize started, noBody, Nat.zero_add, List.length_take]
    omega
  · intro fits
    have admitted : recorder.admitted wanted = wanted := by
      rw [Recorder.admitted]
      split
      · omega
      · rfl
    rw [admitted, List.take_take, Nat.min_self] at gains
    rw [admitted, if_neg (Nat.lt_irrefl _)] at ending
    refine ⟨ending, gains.replay, ?_⟩
    rw [gains.bodySize started, noBody, Nat.zero_add, count]
  · intro moment other otherEnds sameBody sameFailure again
    have recordsToo := records moment otherEnds
    rw [sameBody, sameFailure] at recordsToo
    exact (records now ends).alike recordsToo isOpen started

/-- A body that ends exactly on the cap and on the declared length is whole, however it comes in and
though the stream fails right behind it.
-/
theorem Recorder.read_of_chunks_exact
    : let recorder : Recorder Float :=
        ((Recorder.start 0 ⟨5, none, 0⟩ (some .md5)).recordEnvelope [1, 2]).1
      let cut : Stream := [.chunk [3], .chunk [], .pause 7, .chunk [4, 5], .failure "reset"]
      let whole : Stream := [.chunk [3, 4, 5], .failure "reset"]
      (recorder.isOpen = true ∧ recorder.contentBegin = recorder.size)
      ∧ (whole.body = cut.body ∧ whole.failure? = cut.failure?)
      ∧ (recorder.read 0 none (some 3) cut).ending = .complete
      ∧ (recorder.read 0 none (some 3) cut).recorder.replay.1 = [1, 2, 3, 4, 5]
      ∧ (recorder.read 9 none (some 3) whole).recorder.close.digest
        = (recorder.read 0 none (some 3) cut).recorder.close.digest := by
  intro recorder cut whole
  have sameBody : whole.body = cut.body := by decide
  have sameFailure : whole.failure? = cut.failure? := by decide
  obtain ⟨-, fits, -, others⟩ :=
    @read_of_chunks Float _ recorder rfl rfl trivial rfl rfl 0 (some 3) cut rfl
  obtain ⟨ending, replayed, -⟩ := fits (by decide)
  obtain ⟨-, -, -, -, digest⟩ := others 9 whole rfl sameBody sameFailure
  exact ⟨⟨rfl, rfl⟩, ⟨sameBody, sameFailure⟩, ending.trans (if_pos (by decide)),
    replayed.trans (by decide), digest⟩

end WebHarvest.Recording
