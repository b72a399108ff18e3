import WebHarvest.Proofs.Fetch.TransferEnd
import WebHarvest.Proofs.Recording.Waking

/-! The wakes of a transfer lead from its start to its end, and the reply bounds their number. -/

namespace WebHarvest

namespace Clock.Leads

/-- What led to the wakes before does not matter. -/
theorem map {start now : Instant} {wakes : List Wake} {count : Nat} {change : Wake → Wake}
    (leads : Leads start now wakes count) (kept : ∀ wake, (change wake).moment = wake.moment)
    : Leads start now (wakes.map change) count where
  onward := leads.onward
  past := by
    intro wake member
    obtain ⟨source, among, rfl⟩ := List.mem_map.mp member
    rw [kept]
    exact leads.past source among
  awake := by
    intro earlier
    obtain ⟨wake, member, last⟩ := leads.awake earlier
    exact ⟨change wake, List.mem_map_of_mem member, (kept wake).trans last⟩
  few := by
    rw [List.length_map]
    exact leads.few

end Clock.Leads

namespace Fetch

open Clock (Instant Leads)
open Recording (Recorder Tokens)

/-- The most wakes that a transfer takes which is answered by a reply: one for the answer, and for a
body one for each thing that its stream does and one more.
-/
def Reply.wakes (reply : Reply) : Nat :=
  match reply.answer with
  | .refusal _ => 1
  | .response _ body => body.length + 2

theorem Reply.wakes_pos (reply : Reply) : 0 < reply.wakes := by
  unfold Reply.wakes
  split
  · exact Nat.one_pos
  · exact Nat.succ_pos _

namespace Transfer

variable {α : Type}

theorem leads_answerLine {start now : Instant} (later : start ≤ now)
    : Leads start now (Clock.wakesAlong [] (answerLine start now)) 1 := by
  unfold answerLine
  split
  · rename_i same
    obtain rfl : now = start := by simpa using same
    exact (Leads.nothing now).weaken (Nat.zero_le 1)
  · exact .cons [] (by simp [Clock.wakesAlong]) later

/-- The wakes of a transfer lead from an instant to its end, if it comes to one. -/
def IsLed (transfer : Transfer α) (start : Instant) (count : Nat) : Prop :=
  (∀ why, transfer.ending ≠ .stuck why) → Leads start transfer.now transfer.wakes count

theorem IsLed.weaken {transfer : Transfer α} {start : Instant} {count more : Nat}
    (led : transfer.IsLed start count) (fewer : count ≤ more)
    : transfer.IsLed start more :=
  fun unstuck => (led unstuck).weaken fewer

theorem isLed_brief_at_once (recorder : Recorder α) (ending : TransferEnd)
    : (brief recorder ending recorder.started).IsLed recorder.started 0 := by
  intro _
  simpa [brief, answerLine, Clock.wakesAlong] using Leads.nothing recorder.started

theorem isLed_brief {recorder : Recorder α} {start now : Instant}
    (started : recorder.started = start) (ending : TransferEnd)
    (later : start ≤ now)
    : (brief recorder ending now).IsLed start 1 := by
  intro _
  simpa only [brief, started] using leads_answerLine later

theorem isLed_ofReading {head : Http.ResponseHead} {start answered : Instant}
    {reading : Recording.Reading α} {count : Nat} (later : start ≤ answered)
    (led : reading.IsLed answered count)
    : (ofReading head start answered reading).IsLed start (1 + count) := by
  intro unstuck
  have ended : ∀ why, reading.ending ≠ .stuck why := by
    intro why stuck
    exact unstuck why (by simp [ofReading, stuck])
  exact (leads_answerLine later).append ((led ended).map fun _ => rfl)

theorem started_recordEnvelope (recorder : Recorder α) (envelope : Bytes)
    : (recorder.recordEnvelope envelope).1.started = recorder.started := by
  cases isOpen : recorder.isOpen <;> simp [Recorder.recordEnvelope, Recorder.write, isOpen]

variable [Tokens α]

/-- A response that is received, by cases: its envelope is refused or not, and then its body is read
or not.
-/
theorem isLed_receive (config : FetchConfig) {launch : Launch} (cancelAt : Option Instant)
    {recorder : Recorder α} (head : Http.ResponseHead) (body : Recording.Stream) {now : Instant}
    (started : recorder.started = launch.started) (later : launch.started ≤ now)
    : (receive config launch cancelAt recorder head body now).IsLed launch.started
        (body.length + 2) := by
  have enveloped := started_recordEnvelope recorder head.envelope
  unfold receive
  split
  · rename_i recorded _ same
    rw [same, started] at enveloped
    exact (isLed_brief enveloped _ later).weaken (by omega)
  · rename_i recorded _ _ same
    rw [same, started] at enveloped
    exact (isLed_brief enveloped _ later).weaken (by omega)
  · rename_i recorded same
    rw [same, started] at enveloped
    split
    · exact (isLed_brief enveloped _ later).weaken (by omega)
    · exact (isLed_ofReading later (recorded.read_isLed _ _ _ _)).weaken (by omega)

/-- The wakes of the transfer of any request lead from its start to its end. There are no more than
the reply allows, and none if the request is not sent.
-/
theorem isLed_run (config : FetchConfig) (launch : Launch) (cancelAt : Option Instant)
    (reply : Option Reply)
    : (run config launch cancelAt reply : Transfer α).IsLed launch.started
        (if launch.isSent cancelAt then reply.elim 0 Reply.wakes else 0) := by
  let recorder : Recorder α := .start launch.started launch.limits config.digest?
  have started : recorder.started = launch.started := rfl
  cases sent : launch.isSent cancelAt with
  | false =>
      rw [run_of_unsent config sent]
      exact isLed_brief_at_once recorder _
  | true =>
      cases reply with
      | none =>
          rw [run_of_unreplied config sent]
          exact isLed_brief_at_once recorder _
      | some reply =>
          have later := (reply.isReached_due launch.started).le
          have ends :=
            Clock.Guard.await_endsFrom ⟨cancelAt, none⟩ launch.started
              (some (reply.due launch.started))
          rw [run_of_sent config sent, if_pos rfl]
          dsimp only
          split
          · rename_i moment comes
            obtain rfl : reply.due launch.started = moment := Clock.Guard.eq_of_await_event comes
            cases answer : reply.answer with
            | refusal why =>
                simp only [Option.elim_some, Reply.wakes, answer]
                exact isLed_brief started _ later
            | response head body =>
                simp only [Option.elim_some, Reply.wakes, answer]
                exact isLed_receive config cancelAt head body started later
          · rename_i moment cancelled
            rw [cancelled] at ends
            exact (isLed_brief started _ ends).weaken (Reply.wakes_pos reply)
          · rename_i moment expired
            rw [expired] at ends
            exact (isLed_brief started _ ends).weaken (Reply.wakes_pos reply)
          · exact fun unstuck => absurd rfl (unstuck .endless)

end Transfer

end Fetch

end WebHarvest
