import WebHarvest.Proofs.Fetch.Challenged

/-! What becomes of an item's credentials when a response asks for some. All of them are dropped at
once, whether they were presented or not, unless the response has no challenge that can be read or
is lost: then all of them stay.
-/

namespace WebHarvest.Fetch

open Access (Challenges Credential realmsOf)
open Calendar (Timestamp)
open Clock (Instant)
open Recording (Recorder Stream Tokens)

variable {α : Type} {fetcher : Fetcher} {item : CrawlItem}

-----------------------------------------------------------------------------------------
-- Challenges
-----------------------------------------------------------------------------------------

namespace Fetcher

/-- A response without a readable challenge changes nothing. -/
theorem challenged_of_unexplained {headers : Http.Headers}
    (unexplained : realmsOf headers "www-authenticate" = []) (item : CrawlItem)
    : fetcher.challenged headers item = item := by
  have empty : (Challenges.ofHeaders headers "www-authenticate").isEmpty = true := by
    rw [Challenges.isEmpty_ofHeaders, unexplained]
    rfl
  rw [challenged, empty]
  exact if_pos rfl

/-- Any other one sets its challenges, and takes credentials if there are any, else gives those of
the store for the host that answer them.
-/
theorem challenged_of_explained {headers : Http.Headers}
    (explained : realmsOf headers "www-authenticate" ≠ []) (item : CrawlItem)
    : let challenges := Challenges.ofHeaders headers "www-authenticate"
      fetcher.challenged headers item
      = { item with
          challenges
          credentials :=
            if item.hasCredentials then []
            else
              item.url.hostText?.elim [] fun host =>
                (fetcher.store.forHost host).filter (·.answers challenges) } := by
  intro challenges
  have some : challenges.isEmpty = false := by
    rw [Challenges.isEmpty_ofHeaders]
    exact Bool.eq_false_iff.mpr fun none => explained (List.isEmpty_iff.mp none)
  rw [challenged]
  change (if challenges.isEmpty then item else _) = _
  rw [some, if_neg Bool.false_ne_true]
  cases held : item.hasCredentials with
  | true => rfl
  | false => rfl

theorem credentials_challenged_of_held {headers : Http.Headers}
    (explained : realmsOf headers "www-authenticate" ≠ []) {item : CrawlItem}
    (held : item.credentials ≠ [])
    : (fetcher.challenged headers item).credentials = [] := by
  have held : item.hasCredentials = true := by simpa [CrawlItem.hasCredentials] using held
  rw [challenged_of_explained explained]
  exact if_pos held

/-- An item without credentials is offered those of the store for its host that are for all realms
or for a challenged one.
-/
theorem mem_offered {headers : Http.Headers} {item : CrawlItem} {credential : Credential}
    : (credential
        ∈ if item.hasCredentials then []
          else
            item.url.hostText?.elim [] fun host =>
              (fetcher.store.forHost host).filter
                (·.answers (Challenges.ofHeaders headers "www-authenticate")))
      ↔ item.credentials = []
        ∧ credential ∈ fetcher.store.credentials
        ∧ (∃ host ∈ item.url.hostText?, credential.appliesTo host = true)
        ∧ credential.realm.all (realmsOf headers "www-authenticate").contains = true := by
  cases held : item.hasCredentials with
  | true =>
      have some : item.credentials ≠ [] := by simpa [CrawlItem.hasCredentials] using held
      simp [some]
  | false =>
      have none : item.credentials = [] := by simpa [CrawlItem.hasCredentials] using held
      cases item.url.hostText? with
      | none => simp
      | some host =>
          simp [none, Access.CredentialStore.forHost, Credential.answers_ofHeaders, and_comm]

end Fetcher

-----------------------------------------------------------------------------------------
-- Attempts that are asked for credentials
-----------------------------------------------------------------------------------------

variable [Tokens α] {shared : Shared} {replies : List Reply} {wall : Timestamp} {now : Instant}
  {cancelAt : Option Instant} {execution : Execution α} {head : Http.ResponseHead} {body : Stream}

/-- An attempt that obtains a response which asks for credentials either loses it, and leaves
credentials and challenges alone, or lands with what it asks for. Nothing that is shared changes.
-/
theorem lost_or_challenged
    (executed : fetcher.execute? item shared replies wall now cancelAt = some execution)
    (obtained : obtained? now cancelAt replies.head? = some (head, body))
    (unauthorized : head.status = 401)
    : execution.shared = shared
      ∧ ((execution.state = .connectLost
          ∧ execution.item.credentials = item.credentials
          ∧ execution.item.challenges = item.challenges)
        ∨ (execution.state ≠ .connectLost
          ∧ execution.item.reset = (fetcher.challenged head.headers item).reset)) := by
  let launch := fetcher.launch shared.servers item wall now
  obtain ⟨landed, recorder, -⟩ := landed_of_execute? executed
  have isOf := Transfer.ending_run_isOf (α := α) fetcher.config launch cancelAt replies.head?
  rw [show obtained? launch.started cancelAt replies.head? = some (head, body) from obtained]
    at isOf
  obtain ⟨why, ending, -⟩ | ⟨other, why, ending, made, same, state⟩
      | ⟨other, extent, ending, made, state⟩ := cases_of_land? landed
  · rw [ending] at isOf
    cases isOf
  · refine ⟨same, .inl ⟨state, ?_⟩⟩
    have observed := setStatus_access launch.item (.http other.status)
    have given := setStatus_access
      ((observeHead other launch.item).addFailure (FetchError.lost why.message).message)
      .connectLost
    rw [made]
    exact ⟨given.1.trans observed.1, given.2.trans observed.2⟩
  · rw [ending] at isOf
    obtain rfl : head = other := Option.some.inj isOf
    obtain ⟨left, same⟩ := reset_of_landRecorded made unauthorized
    refine ⟨same, .inr ⟨by cases extent <;> simp [state, Extent.state], ?_⟩⟩
    rw [left, reset_challenged]
    rfl

/-- Credentials and challenges stay if the response is lost or has no challenge that can be read. -/
theorem access_of_unexplained
    (executed : fetcher.execute? item shared replies wall now cancelAt = some execution)
    (obtained : obtained? now cancelAt replies.head? = some (head, body))
    (unauthorized : head.status = 401)
    (unexplained
      : execution.state = .connectLost ∨ realmsOf head.headers "www-authenticate" = [])
    : execution.item.credentials = item.credentials
      ∧ execution.item.challenges = item.challenges := by
  rcases (lost_or_challenged executed obtained unauthorized).2 with ⟨-, same⟩ | ⟨whole, left⟩
  · exact same
  · rw [Fetcher.challenged_of_unexplained (unexplained.resolve_left whole)] at left
    have credentials := congrArg CrawlItem.credentials left
    have challenges := congrArg CrawlItem.challenges left
    exact ⟨credentials, challenges⟩

/-- Else the challenges are those of the response, and the credentials are offered anew. -/
theorem access_of_explained
    (executed : fetcher.execute? item shared replies wall now cancelAt = some execution)
    (obtained : obtained? now cancelAt replies.head? = some (head, body))
    (unauthorized : head.status = 401) (whole : execution.state ≠ .connectLost)
    (explained : realmsOf head.headers "www-authenticate" ≠ [])
    : execution.item.challenges = .ofHeaders head.headers "www-authenticate"
      ∧ ∀ credential,
          credential ∈ execution.item.credentials
          ↔ item.credentials = []
            ∧ credential ∈ fetcher.store.credentials
            ∧ (∃ host ∈ item.url.hostText?, credential.appliesTo host = true)
            ∧ credential.realm.all (realmsOf head.headers "www-authenticate").contains
              = true := by
  rcases (lost_or_challenged executed obtained unauthorized).2 with ⟨lost, -⟩ | ⟨-, left⟩
  · exact absurd lost whole
  · rw [Fetcher.challenged_of_explained explained] at left
    have credentials := congrArg CrawlItem.credentials left
    have challenges := congrArg CrawlItem.challenges left
    refine ⟨challenges, fun credential => ?_⟩
    change execution.item.credentials = if item.hasCredentials then [] else _ at credentials
    rw [credentials]
    exact Fetcher.mem_offered

/-- So a credential that the item has had, presented or not, stays just if the response is lost or
has no challenge that can be read.
-/
theorem mem_credentials_iff_unexplained
    (executed : fetcher.execute? item shared replies wall now cancelAt = some execution)
    (obtained : obtained? now cancelAt replies.head? = some (head, body))
    (unauthorized : head.status = 401) {credential : Credential}
    (held : credential ∈ item.credentials)
    : credential ∈ execution.item.credentials
      ↔ execution.state = .connectLost ∨ realmsOf head.headers "www-authenticate" = [] := by
  constructor
  · intro still
    by_contra gone
    obtain ⟨whole, explained⟩ := not_or.mp gone
    obtain ⟨-, offered⟩ := access_of_explained executed obtained unauthorized whole explained
    obtain ⟨none, -⟩ := (offered credential).mp still
    rw [none] at held
    cases held
  · intro unexplained
    rw [(access_of_unexplained executed obtained unauthorized unexplained).1]
    exact held

/-- What a response that asks for credentials leaves of those of an item. If it is lost, or has no
challenge that can be read, they stay, and so do the challenges that were met before. Else its
challenges are the ones met, and the item has no credentials if it had any, whichever of them was
presented; if it had none, it gets those of the store for its host that answer the challenges.
-/
theorem credentials_of_unauthorized
    (executed : fetcher.execute? item shared replies wall now cancelAt = some execution)
    (obtained : obtained? now cancelAt replies.head? = some (head, body))
    (unauthorized : head.status = 401)
    : let realms := realmsOf head.headers "www-authenticate"
      let stays := execution.state = .connectLost ∨ realms = []
      (∀ credential ∈ item.credentials, credential ∈ execution.item.credentials ↔ stays)
      ∧ (stays
          → execution.item.credentials = item.credentials
            ∧ execution.item.challenges = item.challenges)
      ∧ (¬stays
          → execution.item.challenges = .ofHeaders head.headers "www-authenticate"
            ∧ ∀ credential,
                credential ∈ execution.item.credentials
                ↔ item.credentials = []
                  ∧ credential ∈ fetcher.store.credentials
                  ∧ (∃ host ∈ item.url.hostText?, credential.appliesTo host = true)
                  ∧ credential.realm.all realms.contains = true) := by
  intro realms stays
  refine ⟨fun _ held => mem_credentials_iff_unexplained executed obtained unauthorized held,
    access_of_unexplained executed obtained unauthorized, fun replaced => ?_⟩
  obtain ⟨whole, explained⟩ := not_or.mp replaced
  exact access_of_explained executed obtained unauthorized whole explained

/-- An item without credentials is given those of the store for the realm that is challenged. -/
theorem credentials_of_unauthorized_offered
    : let url : Url :=
        ⟨"http", "", none, true, some (.domain "a"), none, .segments ["x"], none, none⟩
      let good : Credential := ⟨"a", some "r", "user", "word"⟩
      let other : Credential := ⟨"a", some "s", "user", "word"⟩
      let fetcher : Fetcher := ⟨FetchConfig.standard, .empty, ⟨[other, good]⟩⟩
      let head : Http.ResponseHead :=
        ⟨401, .http11, .ofList [("www-authenticate", Text.utf8 "Basic realm=r")]⟩
      obtained? 0 none (some ⟨0, .response head []⟩) = some (head, [])
      ∧ head.status = 401
      ∧ ∃ execution : Execution Float,
          fetcher.execute? (.new url) .empty [⟨0, .response head []⟩] ⟨0, 0⟩ 0 none
            = some execution
          ∧ good ∈ execution.item.credentials
          ∧ other ∉ execution.item.credentials := by
  intro url good other fetcher head
  have obtained : obtained? 0 none (some ⟨0, .response head []⟩) = some (head, []) := rfl
  have completes
      : (fetcher.execute? (.new url) .empty [⟨0, .response head []⟩] ⟨0, 0⟩ 0 none
          : Option (Execution Float)).map (·.state)
        = some .completed := by
    decide +kernel
  obtain ⟨execution, executed, state⟩ := Option.map_eq_some_iff.mp completes
  obtain ⟨-, -, replaced⟩ := credentials_of_unauthorized executed obtained rfl
  have explained : realmsOf head.headers "www-authenticate" = ["r"] := by decide +kernel
  obtain ⟨-, offered⟩ := replaced (by simp [state, explained])
  refine ⟨obtained, rfl, execution, executed, ?_, ?_⟩
  · exact (offered good).mpr ⟨rfl, by decide, ⟨"a", by decide, by decide⟩, by decide +kernel⟩
  · intro held
    obtain ⟨-, -, -, challenged⟩ := (offered other).mp held
    rw [explained] at challenged
    cases challenged

/-- A credential for one realm is not presented before that is challenged, and the challenge takes
it from the item that could answer it.
-/
theorem credentials_of_unauthorized_unpresented
    : let url : Url :=
        ⟨"http", "", none, true, some (.domain "a"), none, .segments ["x"], none, none⟩
      let credential : Credential := ⟨"a", some "r", "user", "word"⟩
      let item := { CrawlItem.new url with credentials := [credential] }
      let fetcher : Fetcher := ⟨FetchConfig.standard, .empty, ⟨[]⟩⟩
      let head : Http.ResponseHead :=
        ⟨401, .http11, .ofList [("www-authenticate", Text.utf8 "Basic realm=r")]⟩
      (fetcher.launch .empty item ⟨0, 0⟩ 0).request.headers.values "authorization" = []
      ∧ credential.appliesTo "a" = true
      ∧ credential.answers (.ofHeaders head.headers "www-authenticate") = true
      ∧ ∃ execution : Execution Float,
          fetcher.execute? item .empty [⟨0, .response head []⟩] ⟨0, 0⟩ 0 none = some execution
          ∧ execution.state = .completed
          ∧ credential ∉ execution.item.credentials := by
  intro url credential item fetcher head
  have outcome
      : (fetcher.execute? item .empty [⟨0, .response head []⟩] ⟨0, 0⟩ 0 none
          : Option (Execution Float)).map
          (fun execution => (execution.state, execution.item.credentials))
        = some (.completed, []) := by
    decide +kernel
  obtain ⟨execution, executed, told⟩ := Option.map_eq_some_iff.mp outcome
  obtain ⟨state, dropped⟩ := Prod.mk.inj told
  exact ⟨by decide +kernel, by decide, by decide +kernel, execution, executed, state,
    by simp [dropped]⟩

end WebHarvest.Fetch
