import WebHarvest.Proofs.Fetch.Attempted
import WebHarvest.Proofs.Fetch.Authorization
import WebHarvest.Proofs.Fetch.Traffic

/-! Credentials leave for their own host only. Items bring credentials for any domains; they come to
other items by way of the servers that the fetches share, and of the fetcher's store.
-/

namespace WebHarvest.Fetch

open Access (Credential CredentialStore Server ServerCache)
open Calendar (Timestamp)

variable {known : Credential → Prop} {fetcher : Fetcher}

-----------------------------------------------------------------------------------------
-- What an attempt does to credentials
-----------------------------------------------------------------------------------------

/-- A response that asks for credentials leaves the item with some of those it had and of those of
the store.
-/
theorem credentials_challenged {headers : Http.Headers} {item : CrawlItem}
    {credential : Credential}
    (held : credential ∈ (fetcher.challenged headers item).credentials)
    : credential ∈ item.credentials ∨ credential ∈ fetcher.store.credentials := by
  unfold Fetcher.challenged at held
  dsimp only at held
  split at held
  · exact .inl held
  · split at held
    · cases held
    · refine .inr ?_
      cases named : item.url.hostText? with
      | none => simp [named] at held
      | some host =>
          simp only [named, Option.elim_some, CredentialStore.forHost, List.mem_filter] at held
          exact held.1.1

theorem credentials_settleAccess (fetcher : Fetcher) (head : Http.ResponseHead)
    (presented : Bool) (item : CrawlItem) (shared : Shared)
    : ∀ credential ∈ (fetcher.settleAccess head presented item shared).1.credentials,
        credential ∈ item.credentials ∨ credential ∈ fetcher.store.credentials := by
  intro credential held
  unfold Fetcher.settleAccess at held
  split at held
  · exact credentials_challenged held
  · split at held
    · exact .inl held
    · split at held
      · cases held
      · exact .inl held

/-- Servers change by the promotion of an item only: it has presented one of its credentials, and
was not refused.
-/
theorem servers_settleAccess (fetcher : Fetcher) (head : Http.ResponseHead) (presented : Bool)
    (item : CrawlItem) (shared : Shared)
    : (fetcher.settleAccess head presented item shared).2.servers
      = if presented && (FetchStatus.http head.status).isSuccess then
          item.credentials.foldl (ServerCache.promote item.challenges) shared.servers
        else shared.servers := by
  unfold Fetcher.settleAccess
  split
  · rename_i asked
    rw [beq_iff_eq.mp asked]
    simp [FetchStatus.isSuccess]
  · split
    · rename_i asked
      rw [beq_iff_eq.mp asked]
      dsimp only
      split <;> simp [FetchStatus.isSuccess]
    · split
      · rfl
      · rfl

/-- A status that is noted leaves credentials and challenges alone. -/
theorem setStatus_access (item : CrawlItem) (status : FetchStatus)
    : (item.setStatus status).credentials = item.credentials
      ∧ (item.setStatus status).challenges = item.challenges := by
  obtain ⟨noted, same⟩ := exists_setStatus item status
  rw [same]
  exact ⟨rfl, rfl⟩

/-- So does an attempt that is given up. -/
theorem credentials_giveUp (status : FetchStatus) (why : FetchError) (wall : Timestamp)
    (item : CrawlItem)
    : (giveUp status why wall item).credentials = item.credentials :=
  (setStatus_access (item.addFailure why.message) status).1

/-- So do the head of a response, the remark, the sizes and the digest. -/
theorem access_before_settling {α : Type} (recorder : Recording.Recorder α)
    (requestLength : Nat) (digest : Option ContentDigest) (head : Http.ResponseHead)
    (extent : Extent) (item : CrawlItem)
    : let later :=
        setContentDigest digest extent
          (setSizes recorder requestLength (remarked head extent item))
      later.credentials = item.credentials ∧ later.challenges = item.challenges := by
  have observed
      : (remarked head extent item).credentials = item.credentials
        ∧ (remarked head extent item).challenges = item.challenges := by
    cases extent <;> exact setStatus_access item (.http head.status)
  obtain ⟨contentSize, referenceLength, sized⟩ :=
    setSizes_shape recorder requestLength (remarked head extent item)
  rw [setContentDigest_eq, sized]
  exact observed

/-- An attempt that is over leaves its item with credentials that it had or those of the store. -/
theorem credentials_land? {α : Type} {launch : Launch} {transfer : Transfer α}
    {wall : Timestamp} {shared after : Shared} {item : CrawlItem} {state : FetchState}
    (landed : fetcher.land? launch transfer wall shared = some (item, after, state))
    : ∀ credential ∈ item.credentials,
        credential ∈ launch.item.credentials ∨ credential ∈ fetcher.store.credentials := by
  obtain ⟨why, -, rfl, -⟩ | ⟨head, why, -, rfl, -⟩ | ⟨head, extent, -, made, -⟩ :=
    cases_of_land? landed
  · rw [credentials_giveUp]
    exact fun credential held => .inl held
  · have observed : (observeHead head launch.item).credentials = launch.item.credentials :=
      (setStatus_access launch.item (.http head.status)).1
    rw [credentials_giveUp, observed]
    exact fun credential held => .inl held
  · let sized :=
      setContentDigest transfer.recorder.digest extent
        (setSizes transfer.recorder launch.request.envelope.length
          (remarked head extent launch.item))
    obtain ⟨credentials, -⟩ :=
      access_before_settling transfer.recorder launch.request.envelope.length
        transfer.recorder.digest head extent launch.item
    obtain ⟨snapshots, completed⟩ :=
      completion_shape head.status fetcher.config.snapshotsKept wall
        (fetcher.settleAccess head launch.presented sized shared).1
    have same
        : { (fetcher.settleAccess head launch.presented sized shared).1 with
            snapshots
            completed :=
              (fetcher.settleAccess head launch.presented sized shared).1.completed.or
                (some wall) }
          = item :=
      completed.symm.trans (congrArg (·.1) made)
    rw [← same, ← credentials]
    exact credentials_settleAccess fetcher head launch.presented sized shared

/-- Whether a transfer ends with a response that accepts what its request has presented. -/
def TransferEnd.isAccepted : TransferEnd → Bool
  | .recorded head _ => (FetchStatus.http head.status).isSuccess
  | _ => false

/-- An attempt that is over has moved the credentials of its item if they were accepted. -/
theorem servers_land? {α : Type} {launch : Launch} {transfer : Transfer α} {wall : Timestamp}
    {shared after : Shared} {item : CrawlItem} {state : FetchState}
    (landed : fetcher.land? launch transfer wall shared = some (item, after, state))
    : after.servers
      = if launch.presented && transfer.ending.isAccepted then
          launch.item.credentials.foldl (ServerCache.promote launch.item.challenges)
            shared.servers
        else shared.servers := by
  obtain ⟨_, ending, -, rfl, -⟩ | ⟨_, _, ending, -, rfl, -⟩ | ⟨head, extent, ending, made, -⟩ :=
    cases_of_land? landed
  · simp [ending, TransferEnd.isAccepted]
  · simp [ending, TransferEnd.isAccepted]
  · obtain ⟨credentials, challenges⟩ :=
      access_before_settling transfer.recorder launch.request.envelope.length
        transfer.recorder.digest head extent launch.item
    have settled :=
      servers_settleAccess fetcher head launch.presented
        (setContentDigest transfer.recorder.digest extent
          (setSizes transfer.recorder launch.request.envelope.length
            (remarked head extent launch.item)))
        shared
    rw [credentials, challenges] at settled
    cases made
    rw [ending]
    exact settled

/-- Screening changes neither the item's credentials nor those of any server. -/
theorem screen_access {shared : Shared} (confined : shared.servers.IsConfined known)
    (item : CrawlItem)
    : let screened := Fetcher.screen item shared
      screened.2.1.credentials = item.credentials
      ∧ screened.2.2.servers.IsConfined known := by
  unfold Fetcher.screen
  split
  · exact ⟨rfl, confined⟩
  · split
    · exact ⟨(setStatus_access item _).1, confined⟩
    · cases item.url.hostText? with
      | none => exact ⟨rfl, confined⟩
      | some host => exact ⟨rfl, confined.ensure host⟩

-----------------------------------------------------------------------------------------
-- What every movement keeps
-----------------------------------------------------------------------------------------

/-- All credentials are of known origins, servers hold those of their domains, and requests present
those of their hosts.
-/
structure Traffic.IsConfined (known : Credential → Prop) (traffic : Traffic) : Prop where
  servers : traffic.shared.servers.IsConfined known
  items : ∀ number, ∀ credential ∈ (traffic.items number).credentials, known credential
  launched
    : ∀ number launch,
        traffic.launched number = some launch
        → ∀ credential ∈ launch.item.credentials, known credential
  requests : ∀ request ∈ traffic.requests, Fetch.IsConfined known request

namespace Traffic

variable {traffic : Traffic} {α : Type}

/-- An item may be replaced by one with credentials of known origins. -/
theorem IsConfined.items_update (confined : traffic.IsConfined known) (number : Nat)
    {item : CrawlItem} (origins : ∀ credential ∈ item.credentials, known credential)
    (other : Nat)
    : ∀ credential ∈ (Function.update traffic.items number item other).credentials,
        known credential := by
  by_cases same : other = number
  · subst same
    rw [Function.update_self]
    exact origins
  · rw [Function.update_of_ne same]
    exact confined.items other

/-- Every movement keeps credentials confined, by cases: a request is made for the host of its
item, a transfer that ends moves credentials to servers of their domains, and the others move
none.
-/
theorem IsConfined.move (confined : traffic.IsConfined known)
    (unnamed : fetcher.acceptFields.values "authorization" = [])
    (stored : ∀ credential ∈ fetcher.store.credentials, known credential)
    (movement : Movement α)
    : (traffic.move fetcher movement).IsConfined known := by
  cases movement with
  | screen number =>
      simp only [Traffic.move]
      split
      · exact confined
      · obtain ⟨same, servers⟩ := screen_access confined.servers (traffic.items number)
        refine ⟨servers, ?_, confined.launched, confined.requests⟩
        exact confined.items_update number (same ▸ confined.items number)
  | takeOff number wall now =>
      simp only [Traffic.move]
      split
      · exact confined
      · refine ⟨confined.servers, confined.items, ?_, ?_⟩
        · refine launched_update confined.launched number fun launch next => ?_
          cases next
          exact confined.items number
        · intro request member
          rcases List.mem_append.mp member with earlier | last
          · exact confined.requests request earlier
          · rw [List.mem_singleton.mp last]
            exact isConfined_request unnamed confined.servers (confined.items number) _
  | land number transfer wall =>
      simp only [Traffic.move]
      split
      · exact confined
      · rename_i launch under
        split
        · exact confined
        · rename_i item after state landed
          have before := confined.launched number launch under
          have origins := credentials_land? landed
          have moved := servers_land? landed
          refine ⟨?_, ?_, ?_, confined.requests⟩
          · rw [moved]
            split
            · exact confined.servers.promoteAll before _
            · exact confined.servers
          · refine confined.items_update number fun credential held => ?_
            rcases origins credential held with own | offered
            · exact before credential own
            · exact stored credential offered
          · refine launched_update confined.launched number fun launch next => ?_
            cases next
  | reset number =>
      simp only [Traffic.move]
      split
      · exact confined
      · refine ⟨confined.servers, ?_, confined.launched, confined.requests⟩
        exact confined.items_update number (confined.items number)

/-- And so do any movements, by induction on them. -/
theorem IsConfined.run (confined : traffic.IsConfined known)
    (unnamed : fetcher.acceptFields.values "authorization" = [])
    (stored : ∀ credential ∈ fetcher.store.credentials, known credential)
    (movements : List (Movement α))
    : (traffic.run fetcher movements).IsConfined known := by
  induction movements generalizing traffic with
  | nil => exact confined
  | cons movement rest ih => exact ih (confined.move unnamed stored movement)

/-- Where no server holds a credential at first, and no setting names an authorization: however
items are screened, fetched and made ready again, also at the same time, and whatever comes back,
a request presents nothing or one credential, which is of the store or was an item's at first,
whose domain is the request's host but for case, as its login and password in base 64. All
credentials that a server holds are for its own domain, and no two of them are the same.
-/
theorem run_confined {config : FetchConfig} {store : CredentialStore} {fetcher : Fetcher}
    (made : Fetcher.new config store = .ok fetcher)
    (unnamed
      : ∀ line ∈ config.acceptHeaders,
          ∀ value, FetchConfig.headerField line ≠ .ok ("authorization", value))
    (items : Nat → CrawlItem) (shared : Shared)
    (empty : ∀ server ∈ shared.servers.servers, server.credentials = [])
    (movements : List (Movement α))
    : let traffic := (start items shared).run fetcher movements
      let known (credential : Credential) : Prop :=
        credential ∈ store.credentials ∨ ∃ number, credential ∈ (items number).credentials
      (∀ request ∈ traffic.requests,
        request.headers.values "authorization" = []
        ∨ ∃ credential host,
            known credential
            ∧ request.url.hostText? = some host
            ∧ Text.sameIgnoringCase credential.domain host = true
            ∧ request.headers.values "authorization"
              = [Text.utf8 ("Basic " ++ Text.Radix.base64.encode
                  (Text.utf8 (credential.login ++ ":" ++ credential.password)))])
      ∧ ∀ server ∈ traffic.shared.servers.servers,
          (∀ credential ∈ server.credentials,
            known credential
            ∧ Text.sameIgnoringCase credential.domain server.key = true)
          ∧ server.credentials.Nodup := by
  intro traffic known
  obtain ⟨rfl, nothing⟩ := fetcher_of_new made unnamed
  have confined : (start items shared).IsConfined known := by
    refine ⟨?_, ?_, ?_, ?_⟩
    · intro server member
      exact Server.isConfined_of_empty (empty server member)
    · intro number credential held
      exact .inr ⟨number, held⟩
    · intro number launch under
      cases under
    · intro request member
      cases member
  have kept := confined.run nothing (fun credential held => .inl held) movements
  refine ⟨kept.requests, fun server member => ?_⟩
  have serverKept := kept.servers server member
  exact ⟨fun credential held =>
    ⟨serverKept.known credential held, serverKept.domain credential held⟩, serverKept.nodup⟩

/-- The server asks for credentials, gets the store's, and is offered them for another item as
well.
-/
theorem run_confined_promoted
    : let url (path : String) : Url :=
        ⟨"http", "", none, true, some (.domain "a"), none, .segments [path], none, none⟩
      let items (number : Nat) : CrawlItem := .new (url (if number = 0 then "x" else "y"))
      let config := { FetchConfig.standard with acceptHeaders := [] }
      let store : CredentialStore :=
        ⟨[⟨"A", none, "user", "word"⟩, ⟨"b", none, "other", "word"⟩]⟩
      let fetcher : Fetcher := ⟨config, .empty, store⟩
      let answer (status : Nat) (challenge : String) : Transfer Float :=
        ⟨.start 0 ⟨0, none, 0⟩ none,
          .recorded
            ⟨status, .http11, Http.Headers.empty.insert "www-authenticate" (Text.utf8 challenge)⟩
            .whole,
          0, [], []⟩
      let movements :=
        [.screen 0, .takeOff 0 ⟨0, 0⟩ 0, .land 0 (answer 401 "Basic realm=r") ⟨1, 0⟩, .reset 0,
          .takeOff 0 ⟨2, 0⟩ 2, .land 0 (answer 200 "") ⟨3, 0⟩, .takeOff 1 ⟨4, 0⟩ 4]
      let traffic := (start items .empty).run fetcher movements
      Fetcher.new config store = .ok fetcher
      ∧ (∀ line ∈ config.acceptHeaders,
          ∀ value, FetchConfig.headerField line ≠ .ok ("authorization", value))
      ∧ (∀ server ∈ Shared.empty.servers.servers, server.credentials = [])
      ∧ traffic.requests.map (fun request => (request.headers.values "authorization").length)
        = [0, 1, 1]
      ∧ ∀ request ∈ traffic.requests,
          request.headers.values "authorization" = []
          ∨ ∃ credential host,
              (credential ∈ store.credentials
                ∨ ∃ number, credential ∈ (items number).credentials)
              ∧ request.url.hostText? = some host
              ∧ Text.sameIgnoringCase credential.domain host = true
              ∧ request.headers.values "authorization" = [credential.authorization] := by
  intro url items config store fetcher answer movements traffic
  have made : Fetcher.new config store = .ok fetcher := rfl
  have unnamed
      : ∀ line ∈ config.acceptHeaders,
          ∀ value, FetchConfig.headerField line ≠ .ok ("authorization", value) := by
    intro line listed
    cases listed
  have empty : ∀ server ∈ Shared.empty.servers.servers, server.credentials = [] := by
    intro server member
    cases member
  obtain ⟨confined, -⟩ := run_confined made unnamed items .empty empty movements
  exact ⟨made, unnamed, empty, by decide +kernel, confined⟩

end Traffic

end WebHarvest.Fetch
