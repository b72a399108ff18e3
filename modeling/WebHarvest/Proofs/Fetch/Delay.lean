import WebHarvest.Fetch.Execution
import WebHarvest.Proofs.Fetch.TransferEnd
import WebHarvest.Proofs.Recording.Delay
import WebHarvest.Proofs.Recording.Steps

/-! An attempt does not depend on when it is made: some milliseconds later the same comes of the
same item, as many later. One that nothing cancels takes whole milliseconds itself.
-/

namespace WebHarvest.Fetch

open Calendar (Timestamp)
open Clock (Instant)
open Recording (Recorder Tokens)

variable {α : Type} (ticks : Nat)

-----------------------------------------------------------------------------------------
-- Transfers
-----------------------------------------------------------------------------------------

/-- A request that is sent some milliseconds later. -/
def Launch.delayed (launch : Launch) : Launch :=
  { launch with started := Clock.delayed ticks launch.started }

namespace Transfer

/-- A transfer that began some milliseconds later. -/
def delayed (transfer : Transfer α) : Transfer α :=
  { transfer with
    recorder := transfer.recorder.delayed ticks
    now := Clock.delayed ticks transfer.now
    line := transfer.line.map (Clock.delayed ticks)
    wakes := transfer.wakes.map (Clock.Wake.delayed ticks) }

theorem answerLine_delayed (start now : Instant)
    : answerLine (Clock.delayed ticks start) (Clock.delayed ticks now)
      = (answerLine start now).map (Clock.delayed ticks) := by
  by_cases same : now = start
  · simp [answerLine, same]
  · simp [answerLine, Clock.delayed_inj, same]

theorem brief_delayed (recorder : Recorder α) (ending : TransferEnd) (now : Instant)
    : brief (recorder.delayed ticks) ending (Clock.delayed ticks now)
      = (brief recorder ending now).delayed ticks := by
  have line
      : answerLine (recorder.delayed ticks).started (Clock.delayed ticks now)
        = (answerLine recorder.started now).map (Clock.delayed ticks) :=
    answerLine_delayed ticks recorder.started now
  have wakes := Clock.wakesAlong_delayed ticks [] (answerLine recorder.started now)
  rw [List.map_nil] at wakes
  simp only [brief, line, wakes, Recorder.close_delayed, Transfer.delayed]

theorem ofReading_delayed (head : Http.ResponseHead) (start answered : Instant)
    (reading : Recording.Reading α)
    : ofReading head (Clock.delayed ticks start) (Clock.delayed ticks answered)
        (reading.delayed ticks)
      = (ofReading head start answered reading).delayed ticks := by
  have answer := Clock.wakesAlong_delayed ticks [] (answerLine start answered)
  rw [List.map_nil] at answer
  have recorder
      : (reading.delayed ticks).recorder.close = reading.recorder.close.delayed ticks :=
    reading.recorder.close_delayed ticks
  have wakes
      : (reading.delayed ticks).wakes.map
          (fun wake => { wake with
            since := wake.since ++ (answerLine start answered).map (Clock.delayed ticks) })
        = (reading.wakes.map fun wake => { wake with
            since := wake.since ++ answerLine start answered }).map
            (Clock.Wake.delayed ticks) := by
    simp [Recording.Reading.delayed, Recording.Course.finish, Recording.Course.delayed,
      Clock.Wake.delayed]
  simp only [ofReading, answerLine_delayed, answer, recorder, wakes, Transfer.delayed,
    List.map_append]
  rfl

variable [Tokens α]

theorem receive_delayed (config : FetchConfig) (launch : Launch) (cancelAt : Option Instant)
    (recorder : Recorder α) (head : Http.ResponseHead) (body : Recording.Stream) (now : Instant)
    : let late :=
        receive config (launch.delayed ticks) (cancelAt.map (Clock.delayed ticks))
          (recorder.delayed ticks) head body (Clock.delayed ticks now)
      late = (receive config launch cancelAt recorder head body now).delayed ticks
      ∨ late.ending = .stuck .deadlineUnrepresentable := by
  have item : (launch.delayed ticks).item = launch.item := rfl
  simp only [receive, recorder.recordEnvelope_delayed ticks, item]
  rcases recorder.recordEnvelope head.envelope with ⟨recorded, why | done⟩
  · cases why <;> exact .inl (brief_delayed ticks recorded _ now)
  · dsimp only
    split
    · exact .inl (brief_delayed ticks recorded _ now)
    · rcases recorded.read_delayed ticks now cancelAt (Http.declaredLength? head.headers) body with
        same | stuck
      · rw [same]
        exact .inl (ofReading_delayed ticks head launch.started now _)
      · exact .inr (by simp only [ofReading, stuck])

/-- A transfer does not depend on when it begins, unless its deadline is too late to be represented.
-/
theorem run_delayed (config : FetchConfig) (launch : Launch) (cancelAt : Option Instant)
    (reply : Option Reply)
    : let late : Transfer α :=
        run config (launch.delayed ticks) (cancelAt.map (Clock.delayed ticks)) reply
      late = (run config launch cancelAt reply).delayed ticks
      ∨ late.ending = .stuck .deadlineUnrepresentable := by
  have sent
      : (launch.delayed ticks).isSent (cancelAt.map (Clock.delayed ticks))
        = launch.isSent cancelAt :=
    Clock.isBefore_delayed ticks launch.started cancelAt
  have started : (launch.delayed ticks).started = Clock.delayed ticks launch.started := rfl
  have limits : (launch.delayed ticks).limits = launch.limits := rfl
  simp only [run, sent, started, limits, Recorder.start_delayed]
  generalize (Recorder.start launch.started launch.limits config.digest? : Recorder α) = recorder
  cases launch.isSent cancelAt with
  | false => exact .inl (brief_delayed ticks recorder _ launch.started)
  | true =>
      cases reply with
      | none => exact .inl (brief_delayed ticks recorder _ launch.started)
      | some reply =>
          have due
              : (if reply.delay == 0 then Clock.delayed ticks launch.started
                  else Clock.wake (Clock.delayed ticks launch.started) reply.delay)
                = Clock.delayed ticks
                    (if reply.delay == 0 then launch.started
                      else Clock.wake launch.started reply.delay) := by
            split
            · rfl
            · exact Clock.wake_delayed ticks _ _
          have waits (moment : Instant) :=
            Clock.Guard.await_delayed ticks ⟨cancelAt, none⟩ launch.started (some moment)
          simp only [Clock.Guard.delayed, Option.map_some, Option.map_none] at waits
          simp only [Bool.not_true, Bool.false_eq_true, if_false, due, waits]
          cases Clock.Guard.await ⟨cancelAt, none⟩ launch.started _ with
          | event now =>
              cases reply.answer with
              | refusal why => exact .inl (brief_delayed ticks recorder _ now)
              | response head body =>
                  exact receive_delayed ticks config launch cancelAt recorder head body now
          | cancelled now | expired now => exact .inl (brief_delayed ticks recorder _ now)
          | never => exact .inl (brief_delayed ticks recorder _ launch.started)

/-- A response is received for whole milliseconds, or up to a cancellation at its own instant. -/
theorem receive_isReached_or_cancels (config : FetchConfig) (launch : Launch)
    (cancelAt : Option Instant) (recorder : Recorder α) (head : Http.ResponseHead)
    (body : Recording.Stream) (now : Instant)
    : let transfer := receive config launch cancelAt recorder head body now
      Clock.IsReached now transfer.now ∨ transfer.now ∈ cancelAt := by
  have atOnce := Clock.IsReached.refl now
  unfold receive
  split
  · exact .inl atOnce
  · exact .inl atOnce
  · rename_i recorded _
    split
    · exact .inl atOnce
    · exact recorded.read_isReached_or_cancels now cancelAt _ body

/-- A transfer takes whole milliseconds, or ends with a cancellation at its own instant. -/
theorem run_isReached_or_cancels (config : FetchConfig) (launch : Launch)
    (cancelAt : Option Instant) (reply : Option Reply)
    : let transfer : Transfer α := run config launch cancelAt reply
      Clock.IsReached launch.started transfer.now ∨ transfer.now ∈ cancelAt := by
  have atOnce := Clock.IsReached.refl launch.started
  cases sent : launch.isSent cancelAt with
  | false =>
      rw [run_of_unsent config sent]
      exact .inl atOnce
  | true =>
      cases reply with
      | none =>
          rw [run_of_unreplied config sent]
          exact .inl atOnce
      | some reply =>
          have tells :=
            Clock.Guard.await_isOf ⟨cancelAt, none⟩ launch.started
              (some (reply.due launch.started))
          rw [run_of_sent config sent]
          dsimp only
          split
          · rename_i moment comes
            obtain rfl : reply.due launch.started = moment := Clock.Guard.eq_of_await_event comes
            have later := reply.isReached_due launch.started
            split
            · exact .inl later
            · rename_i head body _
              have received :=
                receive_isReached_or_cancels config launch cancelAt
                  (.start launch.started launch.limits config.digest? : Recorder α) head body
                  (reply.due launch.started)
              exact received.imp_left later.trans
          · rename_i moment cancelled
            rw [cancelled] at tells
            obtain ⟨⟨due, cancels, rfl⟩, -⟩ := tells
            exact Clock.isReached_max_or_mem launch.started cancels
          · rename_i moment expired
            rw [expired] at tells
            obtain ⟨⟨due, unwatched, -⟩, -⟩ := tells
            cases unwatched
          · exact .inl atOnce

end Transfer

-----------------------------------------------------------------------------------------
-- Attempts
-----------------------------------------------------------------------------------------

/-- An attempt that was made some milliseconds later. -/
def Execution.delayed (execution : Execution α) : Execution α :=
  { execution with
    recorder := execution.recorder.delayed ticks
    now := Clock.delayed ticks execution.now }

/-- What comes of a transfer does not depend on when it began. -/
theorem Fetcher.land?_delayed (fetcher : Fetcher) (launch : Launch) (transfer : Transfer α)
    (wall : Timestamp) (shared : Shared)
    : fetcher.land? (launch.delayed ticks) (transfer.delayed ticks) wall shared
      = fetcher.land? launch transfer wall shared := by
  have ending : (transfer.delayed ticks).ending = transfer.ending := rfl
  unfold land?
  rw [ending]
  cases transfer.ending <;> rfl

/-- An attempt that is over would have come to the same if it had been made earlier. -/
theorem Fetcher.execute?_delayed [Tokens α] {fetcher : Fetcher} {item : CrawlItem}
    {shared : Shared} {replies : List Reply} {wall : Timestamp} {now : Instant}
    {cancelAt : Option Instant} {late : Execution α}
    (executed
      : fetcher.execute? item shared replies wall (Clock.delayed ticks now)
          (cancelAt.map (Clock.delayed ticks))
        = some late)
    : ∃ execution,
        fetcher.execute? item shared replies wall now cancelAt = some execution
        ∧ late = execution.delayed ticks := by
  let launch := fetcher.launch shared.servers item wall now
  have sent
      : (launch.delayed ticks).isSent (cancelAt.map (Clock.delayed ticks))
        = launch.isSent cancelAt :=
    Clock.isBefore_delayed ticks launch.started cancelAt
  have launched
      : fetcher.launch shared.servers item wall (Clock.delayed ticks now) = launch.delayed ticks :=
    rfl
  unfold execute? at executed ⊢
  simp only [launched, sent] at executed
  rcases Transfer.run_delayed (α := α) ticks fetcher.config launch cancelAt replies.head? with
    same | stuck
  · rw [same, land?_delayed] at executed
    simp only [Option.bind_eq_bind, Option.bind_eq_some_iff] at executed ⊢
    obtain ⟨⟨later, after, state⟩, landed, rest⟩ := executed
    cases rest
    exact ⟨_, ⟨_, landed, rfl⟩, rfl⟩
  · simp [land?, stuck] at executed

/-- An attempt takes whole milliseconds, or ends with a cancellation at its own instant. -/
theorem Fetcher.isReached_or_cancels_of_execute? [Tokens α] {fetcher : Fetcher} {item : CrawlItem}
    {shared : Shared} {replies : List Reply} {wall : Timestamp} {now : Instant}
    {cancelAt : Option Instant} {execution : Execution α}
    (executed : fetcher.execute? item shared replies wall now cancelAt = some execution)
    : Clock.IsReached now execution.now ∨ execution.now ∈ cancelAt := by
  unfold execute? at executed
  simp only [Option.bind_eq_bind, Option.bind_eq_some_iff] at executed
  obtain ⟨landed, -, rest⟩ := executed
  cases rest
  exact Transfer.run_isReached_or_cancels _ _ _ _

end WebHarvest.Fetch
