import WebHarvest.Proofs.Recording.Pulling

/-! The instants at which a reader is woken lead from the start of its reading to the end: none is
after it, it is one of them unless no time goes by, and what the stream does bounds their number.
-/

namespace WebHarvest

namespace Clock

-----------------------------------------------------------------------------------------
-- Waits
-----------------------------------------------------------------------------------------

/-- A wait from `now` on ends with the event it is for, or is cut short then or later. -/
def Wait.EndsFrom (now : Instant) (event : Option Instant) : Wait → Prop
  | .event moment => event = some moment
  | .cancelled moment => now ≤ moment
  | .expired moment => now ≤ moment
  | .never => True

/-- So every wait ends, by cases of what it tells. -/
theorem Guard.await_endsFrom (guard : Guard) (now : Instant) (event : Option Instant)
    : (guard.await now event).EndsFrom now event := by
  have tells := guard.await_isOf now event
  cases ended : guard.await now event with
  | event moment =>
      rw [ended] at tells
      exact tells.1
  | cancelled moment =>
      rw [ended] at tells
      obtain ⟨⟨due, -, rfl⟩, -⟩ := tells
      exact Nat.le_max_left now due
  | expired moment =>
      rw [ended] at tells
      obtain ⟨⟨due, -, rfl⟩, -⟩ := tells
      exact le_ring now due
  | never => trivial

-----------------------------------------------------------------------------------------
-- Wakes from one instant to another
-----------------------------------------------------------------------------------------

/-- The wakes of a task lead from one instant to another, and are no more than `count`. -/
structure Leads (start now : Instant) (wakes : List Wake) (count : Nat) : Prop where
  onward : start ≤ now
  past : ∀ wake ∈ wakes, wake.moment ≤ now
  awake : start < now → ∃ wake ∈ wakes, wake.moment = now
  few : wakes.length ≤ count

namespace Leads

variable {start now later moment : Instant} {wakes others : List Wake} {count more : Nat}

theorem nothing (start : Instant) : Leads start start [] 0 where
  onward := Nat.le_refl start
  past := by simp
  awake := fun earlier => absurd earlier (Nat.lt_irrefl start)
  few := Nat.le_refl 0

theorem weaken (leads : Leads start now wakes count) (fewer : count ≤ more)
    : Leads start now wakes more :=
  { leads with few := Nat.le_trans leads.few fewer }

/-- Wakes that go on from where others have led to, after them. -/
theorem append (leads : Leads start now wakes count) (onward : Leads now later others more)
    : Leads start later (others ++ wakes) (count + more) where
  onward := Nat.le_trans leads.onward onward.onward
  past := by
    intro wake member
    rcases List.mem_append.mp member with after | before
    · exact onward.past wake after
    · exact Nat.le_trans (leads.past wake before) onward.onward
  awake := by
    intro earlier
    rcases Nat.lt_or_eq_of_le onward.onward with goes | same
    · obtain ⟨wake, member, last⟩ := onward.awake goes
      exact ⟨wake, List.mem_append_left _ member, last⟩
    · obtain ⟨wake, member, last⟩ := leads.awake (same ▸ earlier)
      exact ⟨wake, List.mem_append_right _ member, last.trans same⟩
  few := by
    rw [List.length_append, Nat.add_comm count]
    exact Nat.add_le_add onward.few leads.few

/-- One wake, after others that do not come after it. -/
theorem cons (since : List Instant) (leads : ∀ wake ∈ wakes, wake.moment ≤ moment)
    (onward : now ≤ moment)
    : Leads now moment (⟨moment, since⟩ :: wakes) (wakes.length + 1) where
  onward := onward
  past := by
    intro wake member
    rcases List.mem_cons.mp member with rfl | among
    · exact Nat.le_refl _
    · exact leads wake among
  awake := fun _ => ⟨_, List.mem_cons_self, rfl⟩
  few := Nat.le_refl _

end Leads

theorem length_wakesAlong (since moments : List Instant)
    : (wakesAlong since moments).length = moments.length := by
  induction moments with
  | nil => rfl
  | cons moment earlier ih => simp [wakesAlong, ih]

end Clock

namespace Recording

open Clock (Instant Leads wakesAlong)

-----------------------------------------------------------------------------------------
-- The wakes of a reading
-----------------------------------------------------------------------------------------

/-- What has been paid for is paid at a later instant, if not at once. -/
theorem TokenBucket.isReached_acquire {α : Type} [Tokens α] (bucket : TokenBucket α) (now : Instant)
    (bytes : Nat)
    : Clock.IsReached now (bucket.acquire now bytes).1 := by
  unfold TokenBucket.acquire
  dsimp only
  split
  · exact .refl now
  · exact Clock.isReached_wake now _

/-- Pauses that a stream has made since an instant, whatever came before them. They end whole
milliseconds later.
-/
structure ArePauses (now : Instant) (pauses : List Instant) : Prop where
  onward : Clock.IsReached now (reached now pauses)
  leads : ∀ since, Leads now (reached now pauses) (wakesAlong since pauses) pauses.length

theorem ArePauses.nothing (now : Instant) : ArePauses now [] where
  onward := .refl now
  leads _ := .nothing now

theorem ArePauses.another {now moment : Instant} {pauses : List Instant}
    (paused : ArePauses now pauses) (later : Clock.IsReached (reached now pauses) moment)
    : ArePauses now (moment :: pauses) where
  onward := paused.onward.trans later
  leads since := by
    have past := (paused.leads since).past
    have leads : Leads now moment (⟨moment, pauses ++ since⟩ :: wakesAlong since pauses) _ :=
      .cons (pauses ++ since) (fun wake member => Nat.le_trans (past wake member) later.le)
        (paused.onward.trans later).le
    rwa [Clock.length_wakesAlong] at leads

/-- The pauses with one more, which may take no time. -/
theorem ArePauses.withPause {now : Instant} {pauses : List Instant} (paused : ArePauses now pauses)
    (nanos : Nat)
    : ArePauses now (withPause now pauses nanos) := by
  unfold Recording.withPause
  dsimp only
  split
  · exact paused
  · exact paused.another (Clock.isReached_wake _ nanos)

theorem length_withPause_le (now : Instant) (pauses : List Instant) (nanos : Nat)
    : (withPause now pauses nanos).length ≤ pauses.length + 1 := by
  unfold withPause
  dsimp only
  split
  · exact Nat.le_succ _
  · exact Nat.le_refl _

namespace Course

variable {α : Type} {course : Course α} {start moment : Instant} {pauses : List Instant}
  {count : Nat}

/-- The wakes of a course lead from the start of its reading to where it is. -/
def IsLed (course : Course α) (start : Instant) (count : Nat) : Prop :=
  Leads start course.now course.wakes count

theorem IsLed.proceed (led : course.IsLed start count) (paused : ArePauses course.now pauses)
    : (course.proceed (reached course.now pauses) pauses).IsLed start (count + pauses.length) :=
  Leads.append led (paused.leads course.line)

theorem IsLed.breakOff (led : course.IsLed start count)
    (later : course.now ≤ moment) (pauses : List Instant)
    : (course.breakOff moment pauses).IsLed start (count + pauses.length + 1) := by
  unfold Course.breakOff
  split
  · exact Leads.weaken led (by omega)
  · let before := (wakesAlong course.line pauses).filter (·.moment < moment)
    have past : ∀ wake ∈ before, wake.moment ≤ moment := by
      intro wake member
      have earlier := (List.mem_filter.mp member).2
      exact Nat.le_of_lt (by simpa using earlier)
    have fewer : before.length ≤ pauses.length := by
      rw [← Clock.length_wakesAlong course.line pauses]
      exact List.length_filter_le _ _
    have leads := Leads.append led (.cons course.line past later)
    exact leads.weaken (by omega)

end Course

/-- The wakes of a reading lead from its start to its end, if it comes to one. -/
def Reading.IsLed {α : Type} (reading : Reading α) (start : Instant) (count : Nat) : Prop :=
  (∀ why, reading.ending ≠ .stuck why) → reading.toCourse.IsLed start count

theorem Reading.IsLed.weaken {α : Type} {reading : Reading α} {start : Instant} {count more : Nat}
    (led : reading.IsLed start count) (fewer : count ≤ more)
    : reading.IsLed start more :=
  fun unstuck => Leads.weaken (led unstuck) fewer

namespace Course

variable {α : Type} {course : Course α} {start : Instant} {pauses : List Instant} {count : Nat}

/-- A wait that was cut short leads to where that was. -/
theorem IsLed.interrupted {wait : Clock.Wait} {event : Option Instant}
    (led : course.IsLed start count) (ends : wait.EndsFrom course.now event)
    (cut : ∀ moment, wait ≠ .event moment) (pauses : List Instant)
    : (course.interrupted pauses wait).IsLed start (count + pauses.length + 1) := by
  intro unstuck
  cases wait with
  | event moment => exact absurd rfl (cut moment)
  | cancelled moment => exact led.breakOff ends pauses
  | expired moment => exact led.breakOff ends pauses
  | never => exact absurd rfl (unstuck .endless)

/-- A course that ends where it is. -/
theorem IsLed.finish (led : course.IsLed start count) (ending : ReadEnd)
    : (course.finish ending).IsLed start count :=
  fun _ => led

variable [Tokens α] {guard : Clock.Guard}

/-- Paying for bytes takes one wake at most. -/
theorem isLed_of_pay_ok {paid : Course α} {bytes : Nat}
    (payment : course.pay guard bytes = .ok paid) (led : course.IsLed start count)
    : paid.IsLed start (count + 1) := by
  obtain ⟨-, rfl⟩ | ⟨bucket, moment, -, comes, rfl⟩ := Course.cases_of_pay_ok payment
  · exact Leads.weaken led (Nat.le_succ count)
  · obtain rfl := Clock.Guard.eq_of_await_event comes
    have led : (course.withTokens (bucket.acquire course.now bytes).2).IsLed start count := led
    exact led.breakOff (bucket.isReached_acquire course.now bytes).le []

theorem isLed_of_pay_error {reading : Reading α} {bytes : Nat}
    (payment : course.pay guard bytes = .error reading) (led : course.IsLed start count)
    : reading.IsLed start (count + 1) := by
  obtain ⟨bucket, due, -, cut, rfl⟩ := Course.cases_of_pay_error payment
  have led : (course.withTokens bucket).IsLed start count := led
  exact led.interrupted (guard.await_endsFrom _ _) cut []

/-- So does a chunk, which has only its payment to wait for. -/
theorem isLed_of_absorb_ok {grown : Course α} {declared : Option Nat} {bytes : Bytes}
    (absorbed : course.absorb guard declared bytes = .ok grown) (led : course.IsLed start count)
    : grown.IsLed start (count + 1) := by
  obtain ⟨-, rfl⟩ | ⟨written, -, payment, -⟩ := cases_of_absorb_ok absorbed
  · exact Leads.weaken led (Nat.le_succ count)
  · have led : (course.withRecorder written).IsLed start count := led
    exact isLed_of_pay_ok payment led

theorem isLed_of_absorb_error {reading : Reading α} {declared : Option Nat} {bytes : Bytes}
    (absorbed : course.absorb guard declared bytes = .error reading)
    (led : course.IsLed start count)
    : reading.IsLed start (count + 1) := by
  obtain ⟨written, why⟩ := cases_of_absorb_error absorbed
  have led : (course.withRecorder written).IsLed start count := led
  obtain ⟨error, -, rfl⟩ | ⟨-, unpaid | ⟨paid, payment, -, rfl⟩⟩ := why
  · exact (led.finish _).weaken (Nat.le_succ count)
  · exact isLed_of_pay_error unpaid led
  · exact (isLed_of_pay_ok payment led).finish _

/-- Wakes have led to a course, and with one for each pause, one for each thing that is still to
come and one for the end there are no more than `most` of them.
-/
structure IsOnTheWay (course : Course α) (start : Instant) (most : Nat) (pauses : List Instant)
    (stream : Stream) (count : Nat)
    : Prop where
  led : course.IsLed start count
  paused : ArePauses course.now pauses
  few : count + pauses.length + stream.length + 1 ≤ most

/-- Reading on leads to its end: a pause is one wake, and of a chunk the payment is one; the last
wake is that of the end.
-/
theorem keeps_isOnTheWay (guard : Clock.Guard) (declared : Option Nat) (start : Instant)
    (most : Nat)
    : Keeps guard declared
        (fun (course : Course α) pauses stream =>
          ∃ count, course.IsOnTheWay start most pauses stream count)
        fun reading => reading.IsLed start most where
  late := by
    rintro course pauses stream ⟨count, led, paused, few⟩ cut
    exact (led.interrupted (guard.await_endsFrom _ _) cut pauses).weaken (by omega)
  stalls := by
    rintro course pauses rest ⟨count, led, paused, few⟩
    have cut := guard.await_none_ne_event course.now
    exact (led.interrupted (guard.await_endsFrom _ _) cut pauses).weaken (by omega)
  ends := by
    rintro course pauses moment ⟨count, led, paused, few⟩ comes
    obtain rfl := Clock.Guard.eq_of_await_event comes
    exact ((led.proceed paused).finish _).weaken (by omega)
  fails := by
    rintro course pauses moment why rest ⟨count, led, paused, few⟩ comes
    obtain rfl := Clock.Guard.eq_of_await_event comes
    exact ((led.proceed paused).finish _).weaken (by omega)
  pause := by
    rintro course pauses nanos rest ⟨count, led, paused, few⟩
    have more := length_withPause_le course.now pauses nanos
    rw [List.length_cons] at few
    exact ⟨count, led, paused.withPause nanos, by omega⟩
  further := by
    rintro course grown pauses moment bytes rest ⟨count, led, paused, few⟩ comes absorbed
    obtain rfl := Clock.Guard.eq_of_await_event comes
    rw [List.length_cons] at few
    refine ⟨_, isLed_of_absorb_ok absorbed (led.proceed paused), .nothing _, ?_⟩
    rw [List.length_nil]
    omega
  last := by
    rintro course reading pauses moment bytes rest ⟨count, led, paused, few⟩ comes absorbed
    obtain rfl := Clock.Guard.eq_of_await_event comes
    exact (isLed_of_absorb_error absorbed (led.proceed paused)).weaken (by omega)

end Course

/-- The wakes of a read lead from its start to its end, and there is one for each thing that the
stream does and one more, at most.
-/
theorem Recorder.read_isLed {α : Type} [Tokens α] (recorder : Recorder α) (now : Instant)
    (cancelAt : Option Instant) (declared : Option Nat) (stream : Stream)
    : (recorder.read now cancelAt declared stream).IsLed now (stream.length + 1) := by
  have started : Course.IsLed (⟨recorder, now, [], []⟩ : Course α) now 0 := Leads.nothing now
  apply (Course.keeps_isOnTheWay _ declared _ _).read
  · exact fun _ unstuck => absurd rfl (unstuck _)
  · exact fun _ => (started.finish _).weaken (Nat.zero_le _)
  · exact fun _ => ⟨0, started, .nothing now, by simp⟩

end Recording

end WebHarvest
