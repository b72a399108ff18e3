import WebHarvest.Proofs.Archive.Decision
import WebHarvest.Proofs.Crawl.Alone
import WebHarvest.Proofs.Fetch.Challenged
import WebHarvest.Proofs.Fetch.Delay

/-! The second attempt on a URL: it is made exactly if the first one was asked for credentials that
the store has, it presents the first of these, and it ends as if there had been no first attempt.
-/

namespace WebHarvest.Crawl

open Access (Challenges Credential)
open Calendar (Timestamp)
open Clock (Instant)
open Fetch (Execution Fetcher)

-----------------------------------------------------------------------------------------
-- The first attempt
-----------------------------------------------------------------------------------------

/-- The world in which a URL was taken on, if it is fetched. -/
def takenOn? (url : Url) (world : World) : Option World :=
  let (isFetched, _, shared) := Fetcher.screen (.new url) world.shared
  if isFetched then some { world with shared, taken := world.taken + 1 } else none

/-- Screening leaves an item that is fetched alone and makes sure of the server of its host. -/
theorem screen_of_fetched {item later : CrawlItem} {shared after : Fetch.Shared}
    (screened : Fetcher.screen item shared = (true, later, after))
    : later = item
      ∧ ∃ host,
          item.url.hostText? = some host
          ∧ after = { shared with servers := shared.servers.ensure host } := by
  unfold Fetcher.screen at screened
  split at screened
  · cases screened
  · split at screened
    · cases screened
    · split at screened
      · cases screened
      · rename_i host named
        cases screened
        exact ⟨rfl, host, named, rfl⟩

/-- A URL that is fetched has a host, whose server is known from then on. -/
theorem takenOn?_eq_some {url : Url} {world known : World}
    (taken : takenOn? url world = some known)
    : ∃ host,
        url.hostText? = some host
        ∧ known
          = { world with
              shared :=
                { world.shared with servers := world.shared.servers.ensure host }
              taken := world.taken + 1 } := by
  rcases screened : Fetcher.screen (.new url) world.shared with ⟨isFetched, item, shared⟩
  cases isFetched with
  | false => simp [takenOn?, screened] at taken
  | true =>
      obtain ⟨-, host, named, rfl⟩ := screen_of_fetched screened
      simp only [takenOn?, screened, if_true, Option.some.injEq] at taken
      exact ⟨host, named, taken.symm⟩

/-- The realms that the response to an attempt challenges. -/
def realmsOf (execution : Execution Float) : List String :=
  execution.item.response.elim [] fun response =>
    Access.realmsOf response.headers "www-authenticate"

namespace Crawler

variable (crawler : Crawler)

/-- The first attempt on a URL, and the world after it. -/
def firstAttempt? (url : Url) (wall : Timestamp) (world : World)
    : Option (Execution Float × World) :=
  (takenOn? url world).bind fun known =>
    (crawler.attempt? (.new url) wall known).map fun first =>
      (first, crawler.arrive (.new url) wall known first)

theorem firstAttempt?_eq_some_iff {crawler : Crawler} {url : Url} {wall : Timestamp}
    {world known later : World} {first : Execution Float}
    (taken : takenOn? url world = some known)
    : crawler.firstAttempt? url wall world = some (first, later)
      ↔ crawler.attempt? (.new url) wall known = some first
        ∧ later = crawler.arrive (.new url) wall known first := by
  rw [firstAttempt?, taken, Option.bind_some, Option.map_eq_some_iff]
  constructor
  · rintro ⟨other, made, same⟩
    cases same
    exact ⟨made, rfl⟩
  · rintro ⟨made, rfl⟩
    exact ⟨first, made, rfl⟩

/-- The credentials of the store that are for the host of a URL, and for no realm in particular or
for one that the response to an attempt challenges.
-/
def answering (url : Url) (execution : Execution Float) : List Credential :=
  url.hostText?.elim [] fun host =>
    crawler.fetcher.store.credentials.filter fun credential =>
      credential.appliesTo host && credential.realm.all (realmsOf execution).contains

/-- An attempt has met a challenge that the store has credentials for, before a cancellation. -/
structure IsChallenged (url : Url) (cancelAt : Option Instant) (execution : Execution Float)
    : Prop where
  status : execution.item.status = some (.http 401)
  uncancelled : Clock.isBefore execution.now cancelAt = true
  challenged : realmsOf execution ≠ []
  answered : crawler.answering url execution ≠ []

/-- The item on which a URL is fetched with all credentials that answer the response to an attempt.
-/
def answeringItem (url : Url) (execution : Execution Float) : CrawlItem :=
  { CrawlItem.new url with
    credentials := crawler.answering url execution
    challenges :=
      execution.item.response.elim .empty fun response =>
        .ofHeaders response.headers "www-authenticate" }

variable {crawler} {url : Url} {wall : Timestamp} {world : World} {first : Execution Float}

/-- What a challenge leaves on the item of a first attempt: the credentials that answer it, if it is
readable at all.
-/
theorem reset_of_challenged {known : World}
    (made : crawler.attempt? (.new url) wall known = some first)
    (status : first.item.status = some (.http 401))
    : first.item.reset
        = (if realmsOf first = [] then .new url else crawler.answeringItem url first)
      ∧ first.shared = known.shared := by
  obtain ⟨headers, response, reset, same⟩ :=
    Fetch.reset_of_challenged (CrawlItem.isFresh_new url) made status
  have realms : realmsOf first = Access.realmsOf headers "www-authenticate" := by
    simp [realmsOf, response]
  have item
      : crawler.answeringItem url first
        = { CrawlItem.new url with
            credentials := url.hostText?.elim [] fun host =>
              (crawler.fetcher.store.forHost host).filter
                (·.answers (.ofHeaders headers "www-authenticate"))
            challenges := .ofHeaders headers "www-authenticate" } := by
    simp only [answeringItem, answering, response, Option.elim_some, realms,
      Access.CredentialStore.forHost, List.filter_filter, Credential.answers_ofHeaders,
      Bool.and_comm]
  refine ⟨?_, same⟩
  rw [reset, Fetcher.challenged, item, realms]
  dsimp only
  rw [Challenges.isEmpty_ofHeaders]
  cases Access.realmsOf headers "www-authenticate" with
  | nil => rfl
  | cons realm rest => rfl

/-- A first attempt is followed by a second one exactly if it has met such a challenge. -/
theorem retries_iff_isChallenged {known : World} {cancelAt : Option Instant}
    (made : crawler.attempt? (.new url) wall known = some first)
    : retries first cancelAt = true ↔ crawler.IsChallenged url cancelAt first := by
  have held : first.item.hasCredentials = first.item.reset.hasCredentials := rfl
  simp only [retries, Bool.and_eq_true, Fetch.http?_eq_iff]
  constructor
  · rintro ⟨⟨status, some⟩, uncancelled⟩
    rw [held, (reset_of_challenged made status).1] at some
    split at some
    · cases some
    · rename_i challenged
      refine ⟨status, uncancelled, challenged, ?_⟩
      simpa [CrawlItem.hasCredentials, answeringItem] using some
  · rintro ⟨status, uncancelled, challenged, answered⟩
    refine ⟨⟨status, ?_⟩, uncancelled⟩
    rw [held, (reset_of_challenged made status).1, if_neg challenged]
    simpa [CrawlItem.hasCredentials, answeringItem] using answered

-----------------------------------------------------------------------------------------
-- The second attempt
-----------------------------------------------------------------------------------------

/-- The item of the second attempt presents the first credential that answers the challenge. -/
theorem request_of_answering {host : String} (named : url.hostText? = some host)
    (answered : crawler.answering url first ≠ []) (servers : Access.ServerCache)
    (wall : Timestamp) (now : Instant)
    : let launch := crawler.fetcher.launch servers (crawler.answeringItem url first) wall now
      ∃ credential,
        (crawler.answering url first).head? = some credential
        ∧ launch.request.headers.values "authorization" = [credential.authorization]
        ∧ launch.presented = true := by
  have answers (credential : Credential)
      : credential.answers (crawler.answeringItem url first).challenges
        = credential.realm.all (realmsOf first).contains := by
    cases response : first.item.response with
    | none =>
        simp only [answeringItem, realmsOf, response, Option.elim_none]
        rfl
    | some response =>
        simp only [answeringItem, realmsOf, response, Option.elim_some]
        exact credential.answers_ofHeaders _ _
  obtain ⟨credential, rest, among⟩ := List.exists_cons_of_ne_nil answered
  have fits
      : (credential.appliesTo host
          && credential.answers (crawler.answeringItem url first).challenges) = true := by
    have member : credential ∈ crawler.answering url first := by simp [among]
    rw [answering, named, Option.elim_some] at member
    rw [answers]
    exact (List.mem_filter.mp member).2
  have chosen
      : Fetcher.credential? servers ((crawler.answeringItem url first).setBegun wall)
        = some (credential, true) := by
    have own
        : Fetcher.ownCredential? ((crawler.answeringItem url first).setBegun wall) host
          = some credential := by
      have credentials
          : ((crawler.answeringItem url first).setBegun wall).credentials = credential :: rest :=
        among
      rw [Fetcher.ownCredential?, credentials]
      exact List.find?_cons_of_pos fits
    have named : ((crawler.answeringItem url first).setBegun wall).url.hostText? = some host :=
      named
    rw [Fetcher.credential?, named, Option.bind_some, own]
  refine ⟨credential, by simp [among], ?_⟩
  simp [Fetcher.launch, Fetcher.request, chosen, Http.Headers.values_insert]

-----------------------------------------------------------------------------------------
-- The requests of a crawl
-----------------------------------------------------------------------------------------

/-- The request that an attempt on an item sends. -/
def requestOf (crawler : Crawler) (item : CrawlItem) (wall : Timestamp) (world : World)
    : Http.Request :=
  (crawler.fetcher.launch world.shared.servers item wall world.now).request

theorem requests_depart (crawler : Crawler) (item : CrawlItem) (wall : Timestamp) (world : World)
    : (crawler.depart item wall world).requests
      = world.requests
        ++ if Clock.isBefore world.now world.cancelAt then
            [(crawler.requestOf item wall world).envelope]
          else [] := by
  unfold depart
  dsimp only
  split
  · rename_i sent
    have sent : Clock.isBefore world.now world.cancelAt = true := sent
    rw [if_pos sent]
    rfl
  · rename_i unsent
    have unsent : ¬Clock.isBefore world.now world.cancelAt = true := unsent
    rw [if_neg unsent, List.append_nil]

theorem requests_once (crawler : Crawler) (item : CrawlItem) (wall : Timestamp) (world : World)
    : (crawler.once item wall world).2.requests = (crawler.depart item wall world).requests := by
  unfold once
  split
  · rfl
  · rfl

/-- No attempt ends before it was made, so what is not cancelled at its end was not at its start. -/
theorem isBefore_of_attempt? {item : CrawlItem} {execution : Execution Float}
    {cancelAt : Option Instant} (made : crawler.attempt? item wall world = some execution)
    (uncancelled : Clock.isBefore execution.now cancelAt = true)
    : Clock.isBefore world.now cancelAt = true := by
  obtain ⟨-, ended⟩ := landed_of_attempt? 0 false [] made
  obtain ⟨_, leads, -⟩ := leads_of_attempt? 0 false [] made
  have later : world.now ≤ execution.now := ended ▸ leads.onward
  exact Clock.isBefore_of_le later uncancelled

/-- The crawl of a URL that is fetched consists of the attempts on it. -/
theorem crawl_of_takenOn? {known : World} (taken : takenOn? url world = some known)
    : crawler.crawl url wall world = crawler.attempts (.new url) wall known := by
  rcases screened : Fetcher.screen (.new url) world.shared with ⟨isFetched, item, shared⟩
  cases isFetched with
  | false => simp [takenOn?, screened] at taken
  | true =>
      obtain ⟨rfl, -⟩ := screen_of_fetched screened
      simp only [takenOn?, screened, if_true, Option.some.injEq] at taken
      simp [crawl, screened, taken]

/-- One that is not fetched sends no request. -/
theorem requests_of_untaken (untaken : takenOn? url world = none)
    : (crawler.crawl url wall world).2.requests = world.requests := by
  rcases screened : Fetcher.screen (.new url) world.shared with ⟨isFetched, item, shared⟩
  cases isFetched with
  | false => simp [crawl, screened]
  | true => simp [takenOn?, screened] at untaken

/-- One whose first attempt is not challenged, if it is made, sends one request at most. -/
theorem requests_of_unchallenged
    (unchallenged
      : ∀ first later,
          crawler.firstAttempt? url wall world = some (first, later)
          → ¬crawler.IsChallenged url world.cancelAt first)
    : ∃ sent,
        (crawler.crawl url wall world).2.requests = world.requests ++ sent
        ∧ sent.length ≤ 1 := by
  cases taken : takenOn? url world with
  | none => exact ⟨[], by simpa using requests_of_untaken taken, Nat.zero_le 1⟩
  | some known =>
      obtain ⟨host, -, shape⟩ := takenOn?_eq_some taken
      have cancelAt : known.cancelAt = world.cancelAt := by rw [shape]
      have requests : known.requests = world.requests := by rw [shape]
      have once
          : (crawler.crawl url wall world).2.requests
            = (crawler.depart (.new url) wall known).requests := by
        rw [crawl_of_takenOn? taken, attempts]
        split
        · rfl
        · rename_i first made
          have attempted := (firstAttempt?_eq_some_iff taken).mpr ⟨made, rfl⟩
          have unretried : ¬retries first known.cancelAt = true := by
            rw [retries_iff_isChallenged made, cancelAt]
            exact unchallenged first _ attempted
          rw [if_neg unretried]
          rfl
      refine ⟨_, once.trans (requests ▸ requests_depart crawler (.new url) wall known), ?_⟩
      split
      · exact Nat.le_refl 1
      · exact Nat.zero_le 1

/-- One whose first attempt is challenged sends the requests of both attempts. -/
theorem requests_of_challenged {known : World} (taken : takenOn? url world = some known)
    (made : crawler.attempt? (.new url) wall known = some first)
    (challenged : crawler.IsChallenged url known.cancelAt first)
    : (crawler.crawl url wall world).2.requests
      = known.requests
        ++ [first.envelope,
            (crawler.requestOf first.item.reset wall
              (crawler.arrive (.new url) wall known first)).envelope] := by
  have envelope : first.envelope = (crawler.requestOf (.new url) wall known).envelope :=
    (Fetch.landed_of_execute? made).2.2
  have uncancelled : Clock.isBefore first.now known.cancelAt = true := challenged.uncancelled
  obtain ⟨replies, requests, departed⟩ := depart_shape crawler (.new url) wall known
  have later
      : (crawler.arrive (.new url) wall known first).cancelAt = known.cancelAt := by
    simp [arrive, departed]
  rw [crawl_of_takenOn? taken, attempts, made]
  dsimp only
  rw [if_pos ((retries_iff_isChallenged made).mpr challenged), requests_once, requests_depart,
    later]
  have sent
      : Clock.isBefore (crawler.arrive (.new url) wall known first).now known.cancelAt = true :=
    uncancelled
  have before
      : (crawler.arrive (.new url) wall known first).requests
        = known.requests ++ [first.envelope] := by
    change (crawler.depart (.new url) wall known).requests = _
    rw [requests_depart, if_pos (isBefore_of_attempt? made uncancelled), envelope]
  rw [if_pos sent, before, List.append_assoc]
  rfl

-----------------------------------------------------------------------------------------
-- The credentials after a crawl
-----------------------------------------------------------------------------------------

/-- Archiving leaves the credentials of an item alone. -/
theorem credentials_process (policy : Archive.Policy) (item : CrawlItem) (wall : Timestamp)
    (archiving : Archive.Archiving)
    : (Archive.process policy item wall archiving).2.1.credentials = item.credentials := by
  have loaded
      : (item.loadEarlier policy.keyByLength archiving.history).credentials = item.credentials := by
    unfold CrawlItem.loadEarlier
    split
    · rfl
    · rfl
  unfold Archive.process
  split
  · rfl
  · rw [← loaded]
    cases revisit
        : Archive.revisitKind? (item.loadEarlier policy.keyByLength archiving.history) with
    | none =>
        obtain ⟨_, _, concluded, -⟩ := Archive.conclude_of_new policy wall archiving revisit
        rw [concluded]
    | some found =>
        obtain ⟨_, _, concluded, -⟩ := Archive.conclude_of_revisit policy wall archiving revisit
        rw [concluded]
        rfl

/-- A second attempt that is accepted leaves no credentials on its item, and the server of the host
has all that answer the challenge.
-/
theorem promoted_of_retried {known : World} {second : Execution Float} {host : String}
    (taken : takenOn? url world = some known) (named : url.hostText? = some host)
    (made : crawler.attempt? (.new url) wall known = some first)
    (challenged : crawler.IsChallenged url known.cancelAt first)
    (again
      : crawler.attempt? first.item.reset wall (crawler.arrive (.new url) wall known first)
        = some second)
    (accepted : second.item.status.any (·.isSuccess) = true)
    : second.item.credentials = []
      ∧ ∀ credential ∈ crawler.answering url first,
          credential ∈ second.shared.servers.credentialsOf host := by
  obtain ⟨reset, same⟩ := reset_of_challenged made challenged.status
  rw [if_neg challenged.challenged] at reset
  rw [reset] at again
  let later := crawler.arrive (.new url) wall known first
  have servers : later.shared.servers = world.shared.servers.ensure host := by
    obtain ⟨other, named', rfl⟩ := takenOn?_eq_some taken
    obtain rfl : host = other := Option.some.inj (named.symm.trans named')
    exact congrArg (·.servers) same
  obtain ⟨_, -, -, presented⟩ :=
    request_of_answering named challenged.answered later.shared.servers wall later.now
  have fresh : (crawler.answeringItem url first).IsFresh := rfl
  obtain ⟨left, moved⟩ := Fetch.promoted_of_accepted fresh again accepted presented
  refine ⟨left, ?_⟩
  obtain ⟨server, found⟩ :=
    Option.isSome_iff_exists.mp (world.shared.servers.isSome_serverFor?_ensure host)
  obtain ⟨promoted, foundLater, -, given, -⟩ :=
    Access.ServerCache.promoteAll_keeps found (crawler.answeringItem url first).challenges
      (crawler.answering url first)
  intro credential answers
  have applies : credential.appliesTo host = true := by
    rw [answering, named, Option.elim_some] at answers
    exact (Bool.and_eq_true_iff.mp (List.mem_filter.mp answers).2).1
  have moved
      : second.shared.servers
        = (crawler.answering url first).foldl
            (Access.ServerCache.promote (crawler.answeringItem url first).challenges)
            (world.shared.servers.ensure host) := by
    rw [moved, ← servers]
    rfl
  rw [moved, Access.ServerCache.credentialsOf, foundLater]
  exact given credential answers applies

-----------------------------------------------------------------------------------------
-- The law of the second attempt
-----------------------------------------------------------------------------------------

/-- A crawl whose first attempt was challenged: a second request presents the first credential that
answers. If it is accepted, the server of the host holds all that answer, and none is left on the
item that the second attempt was made on, which is the one that is archived and reported on.
-/
structure IsRetried (crawler : Crawler) (url : Url) (wall : Timestamp) (first : Execution Float)
    (later : World) (sent : List Bytes) (report : Option Report) (after : World)
    : Prop where
  sent
    : sent = [first.envelope, (crawler.requestOf first.item.reset wall later).envelope]
  presented
    : ∃ credential,
        (crawler.answering url first).head? = some credential
        ∧ (crawler.requestOf first.item.reset wall later).headers.values "authorization"
          = [credential.authorization]
  promoted
    : ∀ second,
        crawler.attempt? first.item.reset wall later = some second
        → second.item.status.any (·.isSuccess) = true
        → second.item.credentials = []
          ∧ (∃ host,
              url.hostText? = some host
              ∧ ∀ credential ∈ crawler.answering url first,
                  credential ∈ after.shared.servers.credentialsOf host)
          ∧ let (decision, archived, archiving) :=
              Archive.process crawler.policy second.item wall later.archiving
            report = some (.ofItem archived (some second.state) decision)
            ∧ archived.credentials = []
            ∧ after.archiving = archiving

theorem isRetried_of_challenged {known : World} {host : String}
    (taken : takenOn? url world = some known) (named : url.hostText? = some host)
    (made : crawler.attempt? (.new url) wall known = some first)
    (challenged : crawler.IsChallenged url known.cancelAt first) (now : Instant)
    : crawler.IsRetried url wall first (crawler.arrive (.new url) wall known first)
        [first.envelope,
          (crawler.requestOf first.item.reset wall
            (crawler.arrive (.new url) wall known first)).envelope]
        (crawler.crawl url wall world).1 { (crawler.crawl url wall world).2 with now } where
  sent := rfl
  presented := by
    obtain ⟨reset, -⟩ := reset_of_challenged made challenged.status
    rw [if_neg challenged.challenged] at reset
    obtain ⟨credential, first, presents, -⟩ :=
      request_of_answering named challenged.answered _ wall _
    exact ⟨credential, first, reset ▸ presents⟩
  promoted := by
    intro second again accepted
    obtain ⟨left, held⟩ := promoted_of_retried taken named made challenged again accepted
    have direct
        : crawler.crawl url wall world
          = crawler.settle second wall
              (crawler.arrive first.item.reset wall
                (crawler.arrive (.new url) wall known first) second) := by
      rw [crawl_of_takenOn? taken, attempts, made]
      dsimp only
      rw [if_pos ((retries_iff_isChallenged made).mpr challenged), once, again]
    have archiving
        : (crawler.arrive first.item.reset wall
            (crawler.arrive (.new url) wall known first) second).archiving
          = (crawler.arrive (.new url) wall known first).archiving := by
      obtain ⟨replies, requests, departed⟩ :=
        depart_shape crawler first.item.reset wall (crawler.arrive (.new url) wall known first)
      rw [arrive, departed]
    rw [direct, settle, conclude, archiving]
    exact ⟨left, ⟨host, named, held⟩, rfl, (credentials_process _ _ _ _).trans left, rfl⟩

/-- A crawl ends like another one, but for the time and for the requests that were sent. -/
structure EndsLike (result other : Option Report × World) : Prop where
  report : result.1 = other.1
  archiving : result.2.archiving = other.2.archiving
  shared : result.2.shared = other.2.shared
  replies : result.2.replies = other.2.replies

theorem EndsLike.trans {result other third : Option Report × World}
    (like : EndsLike result other) (further : EndsLike other third)
    : EndsLike result third where
  report := like.report.trans further.report
  archiving := like.archiving.trans further.archiving
  shared := like.shared.trans further.shared
  replies := like.replies.trans further.replies

/-- Requests that were sent before have no part in an attempt. -/
theorem once_of_requests (crawler : Crawler) (item : CrawlItem) (wall : Timestamp) (world : World)
    (before : List Bytes)
    : EndsLike (crawler.once item wall { world with requests := before })
        (crawler.once item wall world) := by
  have departed
      : ∃ requests,
          crawler.depart item wall { world with requests := before }
          = { crawler.depart item wall world with requests } := by
    unfold depart
    dsimp only
    split
    · exact ⟨_, rfl⟩
    · exact ⟨_, rfl⟩
  obtain ⟨requests, departed⟩ := departed
  have same
      : crawler.attempt? item wall { world with requests := before }
        = crawler.attempt? item wall world :=
    rfl
  unfold once
  rw [same]
  split
  · rw [departed]
    exact ⟨rfl, rfl, rfl, rfl⟩
  · rw [arrive, departed]
    exact ⟨rfl, rfl, rfl, rfl⟩

/-- An attempt that is reported on ends like one that is made some milliseconds earlier, if neither
is cancelled.
-/
theorem once_of_delayed {item : CrawlItem} {ticks : Nat}
    (uncancelled : world.cancelAt = none)
    (reported
      : (crawler.once item wall { world with now := Clock.delayed ticks world.now }).1.isSome)
    : EndsLike (crawler.once item wall { world with now := Clock.delayed ticks world.now })
        (crawler.once item wall world) := by
  let later : World := { world with now := Clock.delayed ticks world.now }
  have departed
      : crawler.depart item wall later
        = { crawler.depart item wall world with now := later.now } := by
    have sent (now : Instant) : Clock.isBefore now world.cancelAt = true := by
      rw [uncancelled]
      rfl
    simp only [depart, Fetch.Launch.isSent, later, sent, if_true]
    rfl
  cases made : crawler.attempt? item wall later with
  | none =>
      have unreported : (crawler.once item wall later).1 = none := by rw [once, made]
      rw [unreported] at reported
      cases reported
  | some late =>
      have executed
          : crawler.fetcher.execute? item world.shared world.replies wall
              (Clock.delayed ticks world.now) (world.cancelAt.map (Clock.delayed ticks))
            = some late := by
        rw [uncancelled]
        rw [attempt?, uncancelled] at made
        exact made
      obtain ⟨execution, earlier, rfl⟩ := Fetcher.execute?_delayed ticks executed
      have earlier : crawler.attempt? item wall world = some execution := earlier
      unfold once
      rw [made, earlier]
      dsimp only
      rw [arrive, arrive, departed]
      exact ⟨rfl, rfl, rfl, rfl⟩

/-- A challenged attempt leaves nothing but one reply less, its request, and the time. -/
theorem arrive_of_challenged {known : World}
    (made : crawler.attempt? (.new url) wall known = some first)
    (challenged : crawler.IsChallenged url known.cancelAt first)
    : ∃ requests,
        crawler.arrive (.new url) wall known first
        = { known with replies := known.replies.tail, now := first.now, requests } := by
  have sent
      : (crawler.fetcher.launch known.shared.servers (.new url) wall known.now).isSent
          known.cancelAt
        = true :=
    isBefore_of_attempt? made challenged.uncancelled
  refine ⟨known.requests ++ [(crawler.requestOf (.new url) wall known).envelope], ?_⟩
  rw [arrive, depart, (reset_of_challenged made challenged.status).2]
  simp only [sent, if_true]
  rfl

/-- A crawl that makes a second attempt ends like one that makes no other: on a fresh item with the
credentials that answer the challenge, with the replies that are left, at the instant at which the
second attempt is made. If nothing is cancelled it may as well be made when the first one was.
-/
theorem carryOut_of_retried {known : World} (taken : takenOn? url world = some known)
    (made : crawler.attempt? (.new url) wall known = some first)
    (retried : retries first world.cancelAt = true)
    : let result := crawler.carryOut url wall world
      let alone (start : Instant) :=
        crawler.once (crawler.answeringItem url first) wall
          { known with replies := known.replies.tail, now := start }
      EndsLike result (alone first.now)
      ∧ (world.cancelAt = none → result.1.isSome → EndsLike result (alone known.now)) := by
  intro result alone
  have cancelAt : known.cancelAt = world.cancelAt := by
    obtain ⟨host, -, shape⟩ := takenOn?_eq_some taken
    rw [shape]
  rw [← cancelAt] at retried
  have challenged := (retries_iff_isChallenged made).mp retried
  obtain ⟨requests, arrived⟩ := arrive_of_challenged made challenged
  obtain ⟨now, same, -⟩ := carryOut_eq crawler url wall world
  have direct
      : crawler.crawl url wall world
        = crawler.once (crawler.answeringItem url first) wall
            { known with replies := known.replies.tail, now := first.now, requests } := by
    rw [crawl_of_takenOn? taken, attempts, made]
    dsimp only
    rw [if_pos retried, (reset_of_challenged made challenged.status).1,
      if_neg challenged.challenged, arrived]
  have second : EndsLike result (alone first.now) := by
    have crawled : EndsLike result (crawler.crawl url wall world) := by
      rw [show result = _ from same]
      exact ⟨rfl, rfl, rfl, rfl⟩
    rw [direct] at crawled
    exact crawled.trans
      (once_of_requests crawler (crawler.answeringItem url first) wall
        { known with replies := known.replies.tail, now := first.now } requests)
  refine ⟨second, ?_⟩
  -- The first attempt takes whole milliseconds, so the second one is a delayed one.
  intro uncancelled reported
  have unheard : first.now ∉ known.cancelAt := by simp [cancelAt, uncancelled]
  obtain ⟨ticks, later⟩ :=
    (Fetch.Fetcher.isReached_or_cancels_of_execute? made).resolve_right unheard
  have reported : (alone first.now).1.isSome := by
    rw [← second.report]
    exact reported
  rw [later] at second reported
  let before : World := { known with replies := known.replies.tail }
  have uncancelled : before.cancelAt = none := cancelAt.trans uncancelled
  have apart : EndsLike (alone (Clock.delayed ticks known.now)) (alone known.now) :=
    once_of_delayed uncancelled reported
  exact second.trans apart

/-- A challenge that comes late and whose body was cut off at the greatest length leaves no remark
on the report, which is that of an attempt without one.
-/
theorem carryOut_of_retried_truncated
    : let url : Url :=
        ⟨"http", "", none, true, some (.domain "a"), none, .segments ["x"], none, none⟩
      let config := { Fetch.FetchConfig.standard with maxLength := 64 }
      let crawler : Crawler :=
        ⟨⟨config, .empty, ⟨[⟨"a", none, "user", "word"⟩]⟩⟩, ⟨false, true⟩⟩
      let asking : Http.Headers :=
        Http.Headers.empty.insert "www-authenticate" (Text.utf8 "Basic")
      let world : World :=
        ⟨.empty, ⟨.empty, ⟨toString, 0⟩⟩,
          [⟨5, .response ⟨401, .http11, asking⟩ [.chunk (Text.utf8 "who are you?")]⟩,
            ⟨0, .response ⟨200, .http11, .empty⟩ [.chunk (Text.utf8 "welcome")]⟩],
          [], 0, 0, none⟩
      let known : World :=
        { world with shared := ⟨world.shared.servers.ensure "a", .empty⟩, taken := 1 }
      takenOn? url world = some known
      ∧ ∃ first,
          crawler.attempt? (.new url) ⟨0, 0⟩ known = some first
          ∧ first.item.annotations = ["lenTrunc"]
          ∧ first.now ≠ known.now
          ∧ retries first world.cancelAt = true
          ∧ EndsLike (crawler.carryOut url ⟨0, 0⟩ world)
              (crawler.once (crawler.answeringItem url first) ⟨0, 0⟩
                { known with replies := known.replies.tail })
          ∧ (crawler.carryOut url ⟨0, 0⟩ world).1.map (·.annotations) = some [] := by
  intro url config crawler asking world known
  have taken : takenOn? url world = some known := rfl
  have outcome
      : (crawler.attempt? (.new url) ⟨0, 0⟩ known).map
          (fun first => (first.item.annotations, first.now, retries first world.cancelAt))
        = some (["lenTrunc"], Clock.millisecond, true) := by
    decide +kernel
  obtain ⟨first, made, told⟩ := Option.map_eq_some_iff.mp outcome
  simp only [Prod.mk.injEq] at told
  obtain ⟨remarks, late, retried⟩ := told
  have unremarked
      : (crawler.carryOut url ⟨0, 0⟩ world).1.map (·.annotations) = some [] := by
    decide +kernel
  have reported : (crawler.carryOut url ⟨0, 0⟩ world).1.isSome := by
    rw [← Option.isSome_map, unremarked]
    rfl
  obtain ⟨-, alike⟩ := carryOut_of_retried taken made retried
  refine ⟨taken, first, made, remarks, ?_, retried, alike rfl reported, unremarked⟩
  rw [late]
  decide

end Crawler

end WebHarvest.Crawl
