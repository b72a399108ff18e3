import WebHarvest.Proofs.Fetch.TransferEnd
import WebHarvest.Proofs.Recording.Cancellation

/-! A cancellation changes nothing of a transfer that is over before it. -/

namespace WebHarvest.Fetch.Transfer

open Clock (Guard Instant)
open Recording (Recorder Tokens)

variable {α : Type} [Tokens α] {instant : Instant} {later : Option Instant}

/-- A response that is received by the instant of a cancellation is received in the same way if the
cancellation comes later or not at all, by cases: its body is read or not.
-/
theorem receive_cancelled_or_same (noEarlier : ∀ other ∈ later, instant ≤ other)
    (config : FetchConfig) (launch : Launch) (recorder : Recorder α) (head : Http.ResponseHead)
    (body : Recording.Stream) (now : Instant)
    : instant ≤ (receive config launch (some instant) recorder head body now).now
      ∨ receive config launch (some instant) recorder head body now
        = receive config launch later recorder head body now := by
  unfold receive
  split
  · exact .inr rfl
  · exact .inr rfl
  · rename_i recorded _
    split
    · exact .inr rfl
    · rcases recorded.read_cancelled_or_same noEarlier now (Http.declaredLength? head.headers)
          body with
        late | same
      · exact .inl late
      · rw [same]
        exact .inr rfl

/-- The transfer of any request is so too, by cases of what ends the wait for its answer. -/
theorem run_cancelled_or_same (noEarlier : ∀ other ∈ later, instant ≤ other)
    (config : FetchConfig) (launch : Launch) (reply : Option Reply)
    : instant ≤ (run config launch (some instant) reply : Transfer α).now
      ∨ (run config launch (some instant) reply : Transfer α) = run config launch later reply := by
  cases sent : launch.isSent (some instant) with
  | false =>
      have due : instant ≤ launch.started := by
        simpa [Launch.isSent, Clock.isBefore] using sent
      left
      rw [run_of_unsent config sent]
      exact due
  | true =>
      have sentLater : launch.isSent later = true := by
        cases later with
        | none => rfl
        | some other =>
            simp only [Launch.isSent, Clock.isBefore, decide_eq_true_eq] at sent ⊢
            exact Nat.lt_of_lt_of_le sent (noEarlier other rfl)
      cases reply with
      | none =>
          right
          rw [run_of_unreplied config sent, run_of_unreplied config sentLater]
      | some reply =>
          rw [run_of_sent config sent, run_of_sent config sentLater]
          rcases Guard.await_cancelled_or_same noEarlier none launch.started
              (some (reply.due launch.started)) with
            ⟨moment, cut, late⟩ | same
          · rw [cut]
            exact .inl late
          · rw [same]
            dsimp only
            split
            · split
              · exact .inr rfl
              · exact receive_cancelled_or_same noEarlier config launch _ _ _ _
            · exact .inr rfl
            · exact .inr rfl
            · exact .inr rfl

end WebHarvest.Fetch.Transfer
