import WebHarvest.Proofs.Access.Challenges
import WebHarvest.Proofs.Access.Promotion
import WebHarvest.Proofs.Fetch.Confinement
import WebHarvest.Proofs.Fetch.Outcome

/-! What a request for credentials leaves to the next attempt, and what their acceptance leaves. A
response that asks for credentials changes nothing of the item but its credentials and challenges
once that is made ready again.
-/

namespace WebHarvest.Fetch

open Access (Challenges Credential ServerCache)
open Calendar (Timestamp)
open Clock (Instant)
open Recording (Recorder Tokens)

variable {α : Type}

-----------------------------------------------------------------------------------------
-- What making an item ready again takes back
-----------------------------------------------------------------------------------------

/-- The item of a recorded response before access is settled. -/
def observed (launch : Launch) (recorder : Recorder α) (head : Http.ResponseHead)
    (extent : Extent) : CrawlItem :=
  setContentDigest recorder.digest extent
    (setSizes recorder launch.request.envelope.length (remarked head extent launch.item))

/-- A recorded response settles access, and leaves a snapshot or none. -/
theorem landRecorded_eq (fetcher : Fetcher) (launch : Launch) (recorder : Recorder α)
    (head : Http.ResponseHead) (extent : Extent) (wall : Timestamp) (shared : Shared)
    : fetcher.landRecorded launch recorder head extent wall shared
      = let settled :=
          fetcher.settleAccess head launch.presented (observed launch recorder head extent) shared
        ((if Fetcher.leavesSnapshot head.status then
            settled.1.recordSnapshot fetcher.config.snapshotsKept wall
          else settled.1).setCompleted wall,
          settled.2) :=
  rfl

theorem reset_setStatus (item : CrawlItem) (status : FetchStatus)
    : (item.setStatus status).reset = item.reset := by
  obtain ⟨noted, same⟩ := exists_setStatus item status
  rw [same]
  rfl

/-- Making the item ready again takes back all that was observed. -/
theorem reset_observed (launch : Launch) (recorder : Recorder α) (head : Http.ResponseHead)
    (extent : Extent)
    : (observed launch recorder head extent).reset = launch.item.reset := by
  obtain ⟨contentSize, referenceLength, sized⟩ :=
    setSizes_shape recorder launch.request.envelope.length (remarked head extent launch.item)
  have remarked : (remarked head extent launch.item).reset = launch.item.reset := by
    cases extent <;> exact reset_setStatus launch.item (.http head.status)
  rw [observed, setContentDigest_eq, sized]
  exact remarked

/-- What is asked for does not depend on what making the item ready takes back. -/
theorem reset_challenged (fetcher : Fetcher) (headers : Http.Headers) (item : CrawlItem)
    : (fetcher.challenged headers item).reset = fetcher.challenged headers item.reset := by
  have held : item.reset.hasCredentials = item.hasCredentials := rfl
  unfold Fetcher.challenged
  dsimp only
  rw [held]
  split
  · rfl
  · split
    · rfl
    · rfl

/-- A recorded response that asks for credentials changes nothing else of the item, once that is
made ready again, and nothing that is shared.
-/
theorem reset_of_landRecorded {fetcher : Fetcher} {launch : Launch} {recorder : Recorder α}
    {head : Http.ResponseHead} {extent : Extent} {wall : Timestamp} {shared after : Shared}
    {item : CrawlItem}
    (landed : fetcher.landRecorded launch recorder head extent wall shared = (item, after))
    (asked : head.status = 401)
    : item.reset = fetcher.challenged head.headers launch.item.reset ∧ after = shared := by
  let last := observed launch recorder head extent
  have left
      : fetcher.landRecorded launch recorder head extent wall shared
        = ((fetcher.challenged head.headers last).setCompleted wall, shared) := by
    rw [landRecorded_eq, Fetcher.settleAccess, if_pos (by simp [asked]), asked]
    rfl
  obtain ⟨made, same⟩ := Prod.mk.inj (landed.symm.trans left)
  refine ⟨?_, same⟩
  calc
    item.reset
    _ = (fetcher.challenged head.headers last).reset := by rw [made]; rfl
    _ = fetcher.challenged head.headers launch.item.reset := by
      rw [reset_challenged, reset_observed]

-----------------------------------------------------------------------------------------
-- A response that asks for credentials
-----------------------------------------------------------------------------------------

theorem http?_eq_iff {status : Option FetchStatus} {code : Nat}
    : (status.bind FetchStatus.http? == some code) = true ↔ status = some (.http code) := by
  cases status with
  | none => simp
  | some status => cases status <;> simp [FetchStatus.http?]

variable [Tokens α] {fetcher : Fetcher} {item : CrawlItem} {shared : Shared}
  {replies : List Reply} {wall : Timestamp} {now : Instant} {cancelAt : Option Instant}
  {execution : Execution α}

/-- An attempt on a fresh item that ends with a response was recorded, and landed with it. -/
theorem landRecorded_of_status (fresh : item.IsFresh)
    (executed : fetcher.execute? item shared replies wall now cancelAt = some execution)
    {code : Nat} (status : execution.item.status = some (.http code))
    : let launch := fetcher.launch shared.servers item wall now
      ∃ head extent,
        head.status = code
        ∧ execution.item.response = some ⟨code, head.headers⟩
        ∧ fetcher.landRecorded launch execution.recorder head extent wall shared
          = (execution.item, execution.shared) := by
  intro launch
  obtain ⟨landed, recorder, -⟩ := landed_of_execute? executed
  have undecided : launch.item.status = none := (fresh.isUnderWay_setBegun wall).2
  obtain ⟨head, extent, -, recorded, -⟩ :=
    recorded_of_land? landed (by rw [status]; rfl)
  rw [← recorder] at recorded
  obtain ⟨_, _, _, _, _, shape⟩ :=
    landRecorded_shape fetcher launch execution.recorder head extent wall shared
  rw [recorded, remarked_eq undecided] at shape
  dsimp only at shape
  obtain rfl : head.status = code := by
    rw [shape] at status
    exact FetchStatus.http.inj (Option.some.inj status)
  refine ⟨head, extent, rfl, ?_, recorded⟩
  rw [shape]

/-- A fresh item whose response asks for credentials is left with these and the challenges when it
is made ready again, and nothing that is shared has changed.
-/
theorem reset_of_challenged (fresh : item.IsFresh)
    (executed : fetcher.execute? item shared replies wall now cancelAt = some execution)
    (status : execution.item.status = some (.http 401))
    : ∃ headers,
        execution.item.response = some ⟨401, headers⟩
        ∧ execution.item.reset = fetcher.challenged headers item
        ∧ execution.shared = shared := by
  obtain ⟨head, extent, asked, response, landed⟩ := landRecorded_of_status fresh executed status
  obtain ⟨made, same⟩ := reset_of_landRecorded landed asked
  refine ⟨head.headers, response, ?_, same⟩
  rw [made]
  exact congrArg (fetcher.challenged head.headers) fresh

/-- A fresh item whose response accepts what was presented is left without credentials, and the
servers have taken those that it had.
-/
theorem promoted_of_accepted (fresh : item.IsFresh)
    (executed : fetcher.execute? item shared replies wall now cancelAt = some execution)
    (accepted : execution.item.status.any (·.isSuccess) = true)
    (presented : (fetcher.launch shared.servers item wall now).presented = true)
    : execution.item.credentials = []
      ∧ execution.shared.servers
        = item.credentials.foldl (ServerCache.promote item.challenges) shared.servers := by
  obtain ⟨code, status, success⟩
      : ∃ code, execution.item.status = some (.http code)
        ∧ (FetchStatus.http code).isSuccess = true := by
    obtain ⟨status, noted, success⟩ := (Option.any_eq_true _ _).mp accepted
    cases status with
    | http code => exact ⟨code, noted, success⟩
    | connectFailed => cases success
    | connectLost => cases success
    | prerequisiteFailed => cases success
  obtain ⟨head, extent, rfl, -, landed⟩ := landRecorded_of_status fresh executed status
  let launch := fetcher.launch shared.servers item wall now
  let last := observed launch execution.recorder head extent
  obtain ⟨credentials, challenges⟩ :=
    access_before_settling execution.recorder launch.request.envelope.length
      execution.recorder.digest head extent launch.item
  have settled
      : fetcher.settleAccess head launch.presented last shared
        = ({ last with credentials := [] },
            { shared with
              servers := last.credentials.foldl (ServerCache.promote last.challenges)
                shared.servers }) := by
    have inRange : 200 ≤ head.status ∧ head.status ≤ 399 := by
      simpa [FetchStatus.isSuccess] using success
    rw [Fetcher.settleAccess, if_neg (by simp; omega), if_neg (by simp; omega),
      if_pos (by simp [presented, success, launch])]
    rfl
  rw [landRecorded_eq, settled] at landed
  obtain ⟨made, same⟩ := Prod.mk.inj landed
  obtain ⟨snapshots, completed⟩ :=
    completion_shape head.status fetcher.config.snapshotsKept wall { last with credentials := [] }
  constructor
  · rw [← made, completed]
  · rw [← same]
    dsimp only
    rw [show last.credentials = item.credentials from credentials,
      show last.challenges = item.challenges from challenges]

end WebHarvest.Fetch
