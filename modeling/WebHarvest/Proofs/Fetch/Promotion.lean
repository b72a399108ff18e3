import WebHarvest.Proofs.Access.Promotion
import WebHarvest.Proofs.Fetch.Confinement

/-! Credentials that have proved good stay with the server of their domain. Whether the server is
offered one of them depends on the challenges of the item that was promoted last.
-/

namespace WebHarvest.Fetch

open Access (Challenges Credential Server ServerCache)
open Calendar (Timestamp)

variable {α : Type} {fetcher : Fetcher}

-----------------------------------------------------------------------------------------
-- When credentials are moved
-----------------------------------------------------------------------------------------

/-- A transfer that never ends accepts nothing. -/
theorem isAccepted_of_land?_none {launch : Launch} {transfer : Transfer α} {wall : Timestamp}
    {shared : Shared} (stuck : fetcher.land? launch transfer wall shared = none)
    : transfer.ending.isAccepted = false := by
  unfold Fetcher.land? at stuck
  split at stuck
  · cases stuck
  · cases stuck
  · cases stuck
  · rename_i ending
    rw [ending]
    rfl

/-- An item has a credential for its own host that answers the challenges it has met. -/
def HasOwnCredential (item : CrawlItem) : Prop :=
  ∃ host credential,
    item.url.hostText? = some host
    ∧ credential ∈ item.credentials
    ∧ credential.appliesTo host = true
    ∧ credential.answers item.challenges = true

/-- A request that presents one of the item's own credentials presents such a one. -/
theorem hasOwnCredential_of_presented {servers : ServerCache} {item : CrawlItem}
    (own : (Fetcher.credential? servers item).any (·.2) = true)
    : HasOwnCredential item := by
  unfold Fetcher.credential? at own
  cases named : item.url.hostText? with
  | none => simp [named] at own
  | some host =>
      cases chosen : Fetcher.ownCredential? item host with
      | none =>
          cases known : Fetcher.knownCredential? servers host <;>
            simp [named, chosen, known] at own
      | some credential =>
          have member : credential ∈ item.credentials := List.mem_of_find?_eq_some chosen
          have fits := List.find?_some chosen
          rw [Bool.and_eq_true] at fits
          exact ⟨host, credential, named, member, fits⟩

-----------------------------------------------------------------------------------------
-- What promotions leave to the server of a domain
-----------------------------------------------------------------------------------------

/-- Servers after some items were promoted to the server of a domain: it holds what it has held and
what it was given, and is known for the challenges of the last item.
-/
structure Took (domain : String) (servers later : ServerCache) (promoted : List CrawlItem)
    : Prop where
  kept : servers.credentialsOf domain <+: later.credentialsOf domain
  given
    : ∀ item ∈ promoted,
        ∀ credential ∈ item.credentials,
          credential.appliesTo domain = true → credential ∈ later.credentialsOf domain
  challenges
    : later.challengesOf domain
      = (promoted.getLast?.map (·.challenges)).getD (servers.challengesOf domain)

namespace Took

variable {domain : String} {servers next later : ServerCache}

theorem nothing (credentials : later.credentialsOf domain = servers.credentialsOf domain)
    (challenges : later.challengesOf domain = servers.challengesOf domain)
    : Took domain servers later [] where
  kept := credentials ▸ List.prefix_rfl
  given _ member := by cases member
  challenges := challenges

theorem trans {first second : List CrawlItem} (before : Took domain servers next first)
    (after : Took domain next later second)
    : Took domain servers later (first ++ second) where
  kept := before.kept.trans after.kept
  given item member credential held applies := by
    rcases List.mem_append.mp member with early | late
    · exact after.kept.subset (before.given item early credential held applies)
    · exact after.given item late credential held applies
  challenges := by
    rw [after.challenges, before.challenges, List.getLast?_append]
    cases second.getLast? <;> rfl

/-- An item that is promoted gives its credentials to the server of a domain if that is known and
one of them is for the domain.
-/
theorem promoteAll (servers : ServerCache) (domain : String) (item : CrawlItem)
    : Took domain servers
        (item.credentials.foldl (ServerCache.promote item.challenges) servers)
        (if (servers.serverFor? domain).isSome && item.credentials.any (·.appliesTo domain) then
          [item]
        else []) := by
  cases found : servers.serverFor? domain with
  | none =>
      have unknown :=
        ServerCache.promoteAll_of_unknown found item.challenges item.credentials
      refine nothing ?_ ?_
      · simp only [ServerCache.credentialsOf, unknown, found]
      · simp only [ServerCache.challengesOf, unknown, found]
  | some server =>
      obtain ⟨later, foundLater, kept, given, known⟩ :=
        ServerCache.promoteAll_keeps found item.challenges item.credentials
      refine ⟨?_, ?_, ?_⟩
      · simpa [ServerCache.credentialsOf, found, foundLater] using kept
      · intro other member credential held applies
        split at member
        · rw [List.mem_singleton.mp member] at held
          simpa [ServerCache.credentialsOf, foundLater] using given credential held applies
        · cases member
      · cases any : item.credentials.any (·.appliesTo domain) <;>
          simpa [ServerCache.challengesOf, found, foundLater, any] using known

end Took

namespace Traffic

/-- The item that a movement promotes to the server of a domain, if there is one: its request has
presented one of its credentials, which was accepted, and one of them is for the domain.
-/
def promotedOnto (traffic : Traffic) (domain : String) : Movement α → List CrawlItem
  | .land number transfer _ =>
    match traffic.launched number with
    | some launch =>
      if launch.presented && transfer.ending.isAccepted then
        if (traffic.shared.servers.serverFor? domain).isSome
            && launch.item.credentials.any (·.appliesTo domain) then
          [launch.item]
        else []
      else []
    | none => []
  | _ => []

/-- All items that movements promote to the server of a domain, in order. -/
def allPromotedOnto (fetcher : Fetcher) (domain : String)
    : Traffic → List (Movement α) → List CrawlItem
  | _, [] => []
  | traffic, movement :: rest =>
    traffic.promotedOnto domain movement
    ++ allPromotedOnto fetcher domain (traffic.move fetcher movement) rest

variable {traffic : Traffic}

/-- One movement, by cases: only the end of a transfer gives the server of a domain anything. -/
theorem took_move (fetcher : Fetcher) (traffic : Traffic) (domain : String)
    (movement : Movement α)
    : Took domain traffic.shared.servers (traffic.move fetcher movement).shared.servers
        (traffic.promotedOnto domain movement) := by
  cases movement with
  | screen number =>
      simp only [move, promotedOnto]
      split
      · exact .nothing rfl rfl
      · unfold Fetcher.screen
        split
        · exact .nothing rfl rfl
        · split
          · exact .nothing rfl rfl
          · split
            · exact .nothing rfl rfl
            · rename_i host _
              obtain ⟨credentials, challenges⟩ :=
                traffic.shared.servers.ensure_keeps domain host
              exact .nothing credentials challenges
  | takeOff number wall now =>
      simp only [move, promotedOnto]
      split
      · exact .nothing rfl rfl
      · exact .nothing rfl rfl
  | reset number =>
      simp only [move, promotedOnto]
      split
      · exact .nothing rfl rfl
      · exact .nothing rfl rfl
  | land number transfer wall =>
      simp only [move, promotedOnto]
      cases under : traffic.launched number with
      | none => exact .nothing rfl rfl
      | some launch =>
          dsimp only
          cases landed : fetcher.land? launch transfer wall traffic.shared with
          | none =>
              rw [isAccepted_of_land?_none landed, Bool.and_false]
              exact .nothing rfl rfl
          | some settled =>
              obtain ⟨item, after, state⟩ := settled
              have moved := servers_land? landed
              dsimp only
              rw [moved]
              split
              · exact .promoteAll _ domain launch.item
              · exact .nothing rfl rfl

/-- All movements, by induction on them. -/
theorem took_run (fetcher : Fetcher) (traffic : Traffic) (domain : String)
    (movements : List (Movement α))
    : Took domain traffic.shared.servers (traffic.run fetcher movements).shared.servers
        (traffic.allPromotedOnto fetcher domain movements) := by
  induction movements generalizing traffic with
  | nil => exact .nothing rfl rfl
  | cons movement rest ih =>
      exact (took_move fetcher traffic domain movement).trans (ih (traffic.move fetcher movement))

-----------------------------------------------------------------------------------------
-- What is known of an item that is promoted
-----------------------------------------------------------------------------------------

/-- Whatever is under way and presents a credential of its own has one. -/
def PresentOwn (launched : Nat → Option Launch) : Prop :=
  ∀ number launch,
    launched number = some launch → launch.presented = true → HasOwnCredential launch.item

theorem presentOwn_move (presents : PresentOwn traffic.launched) (fetcher : Fetcher)
    (movement : Movement α)
    : PresentOwn (traffic.move fetcher movement).launched := by
  cases movement with
  | screen number =>
      simp only [move]
      split
      · exact presents
      · exact presents
  | takeOff number wall now =>
      simp only [move]
      split
      · exact presents
      · refine launched_update presents number ?_
        intro launch made presented
        cases made
        have own
            : (Fetcher.credential? traffic.shared.servers
                ((traffic.items number).setBegun wall)).any (·.2)
              = true :=
          presented
        exact hasOwnCredential_of_presented own
  | land number transfer wall =>
      simp only [move]
      split
      · exact presents
      · split
        · exact presents
        · refine launched_update presents number ?_
          intro launch ended
          cases ended
  | reset number =>
      simp only [move]
      split
      · exact presents
      · exact presents

theorem hasOwnCredential_of_promotedOnto (presents : PresentOwn traffic.launched)
    {domain : String} {movement : Movement α} {item : CrawlItem}
    (promoted : item ∈ traffic.promotedOnto domain movement)
    : HasOwnCredential item := by
  cases movement with
  | screen number => cases promoted
  | takeOff number wall now => cases promoted
  | reset number => cases promoted
  | land number transfer wall =>
      simp only [promotedOnto] at promoted
      split at promoted
      · rename_i launch under
        split at promoted
        · rename_i accepted
          split at promoted
          · rw [List.mem_singleton.mp promoted]
            rw [Bool.and_eq_true] at accepted
            exact presents number launch under accepted.1
          · cases promoted
        · cases promoted
      · cases promoted

theorem hasOwnCredential_of_allPromotedOnto (presents : PresentOwn traffic.launched)
    {domain : String} {movements : List (Movement α)} {item : CrawlItem}
    (promoted : item ∈ traffic.allPromotedOnto fetcher domain movements)
    : HasOwnCredential item := by
  induction movements generalizing traffic with
  | nil => cases promoted
  | cons movement rest ih =>
      rcases List.mem_append.mp promoted with now | later
      · exact hasOwnCredential_of_promotedOnto presents now
      · exact ih (presentOwn_move presents fetcher movement) later

/-- The credential that is offered to a host is among those of its server. -/
theorem isSome_knownCredential? {servers : ServerCache} {domain : String} {credential : Credential}
    (held : credential ∈ servers.credentialsOf domain)
    (answers : credential.answers (servers.challengesOf domain) = true)
    : (Fetcher.knownCredential? servers domain).isSome := by
  have same
      : Fetcher.knownCredential? servers domain
        = (servers.credentialsOf domain).find? (·.answers (servers.challengesOf domain)) := by
    unfold Fetcher.knownCredential? ServerCache.credentialsOf ServerCache.challengesOf
    cases servers.serverFor? domain <;> rfl
  rw [same, List.find?_isSome]
  exact ⟨credential, held, answers⟩

/-- A credential that was promoted to the server of its domain is held by the server ever after,
however items are screened, fetched and made ready again. It answers the challenges that the server
is known for as long as the item that was promoted last has met the credential's realm, or the
credential is for all realms. The server is offered some credential then, and also whenever the item
that was promoted last came from the server itself.
-/
theorem run_holds_promoted (fetcher : Fetcher) (items : Nat → CrawlItem) (shared : Shared)
    (domain : String) (movements : List (Movement α))
    : let promoted := (start items shared).allPromotedOnto fetcher domain movements
      let servers := ((start items shared).run fetcher movements).shared.servers
      ∀ item ∈ promoted,
        ∀ credential ∈ item.credentials,
          credential.appliesTo domain = true
          → credential ∈ servers.credentialsOf domain
            ∧ ∃ last ∈ promoted.getLast?,
                servers.challengesOf domain = last.challenges
                ∧ (credential.answers last.challenges = true
                    ∨ (∃ host,
                        last.url.hostText? = some host
                        ∧ Text.sameIgnoringCase host domain = true)
                  → (Fetcher.knownCredential? servers domain).isSome) := by
  intro promoted servers item member credential carried applies
  have took := took_run fetcher (start items shared) domain movements
  have held : credential ∈ servers.credentialsOf domain :=
    took.given item member credential carried applies
  refine ⟨held, ?_⟩
  obtain ⟨last, isLast⟩ : ∃ last, promoted.getLast? = some last := by
    rw [← Option.isSome_iff_exists, List.getLast?_isSome]
    exact List.ne_nil_of_mem member
  have challenges : servers.challengesOf domain = last.challenges := by
    rw [took.challenges, isLast]
    rfl
  refine ⟨last, isLast, challenges, ?_⟩
  rintro (answers | ⟨host, named, same⟩)
  · exact isSome_knownCredential? held (challenges ▸ answers)
  · have presents : PresentOwn (start items shared).launched := by
      intro number launch under
      cases under
    have among : last ∈ promoted := List.mem_of_getLast? isLast
    obtain ⟨host', own, named', carriedOwn, appliesOwn, answersOwn⟩ :=
      hasOwnCredential_of_allPromotedOnto presents among
    rw [named] at named'
    cases named'
    have appliesToo : own.appliesTo domain = true := by
      rw [Credential.appliesTo, Text.sameIgnoringCase_iff] at appliesOwn ⊢
      exact appliesOwn.trans (Text.sameIgnoringCase_iff.mp same)
    exact isSome_knownCredential? (took.given last among own carriedOwn appliesToo)
      (challenges ▸ answersOwn)

/-- A server that accepts credentials for two of its realms one after the other holds both, and is
offered one.
-/
theorem run_holds_promoted_both
    : let url (path : String) : Url :=
        ⟨"http", "", none, true, some (.domain "a.example"), none, .segments [path], none, none⟩
      let credential : Credential := ⟨"A.example", some "r", "user", "word"⟩
      let items (number : Nat) : CrawlItem :=
        { CrawlItem.new (url "x") with
          credentials := [if number = 0 then credential else { credential with realm := some "s" }]
          challenges := Challenges.empty.insert (if number = 0 then "r" else "s") "Basic" }
      let fetcher : Fetcher := ⟨FetchConfig.standard, .empty, ⟨[]⟩⟩
      let transfer (number : Nat) : Transfer Float :=
        .run fetcher.config (fetcher.launch .empty (items number) ⟨0, 0⟩ 0) none
          (some ⟨0, .response ⟨200, .http11, .empty⟩ []⟩)
      let movements :=
        [.screen 0, .takeOff 0 ⟨0, 0⟩ 0, .takeOff 1 ⟨0, 0⟩ 0, .land 0 (transfer 0) ⟨1, 0⟩,
          .land 1 (transfer 1) ⟨1, 0⟩]
      let promoted := (start items .empty).allPromotedOnto fetcher "a.example" movements
      let servers := ((start items .empty).run fetcher movements).shared.servers
      (∃ item ∈ promoted, credential ∈ item.credentials)
      ∧ credential.appliesTo "a.example" = true
      ∧ credential ∈ servers.credentialsOf "a.example"
      ∧ (Fetcher.knownCredential? servers "a.example").isSome := by
  intro url credential items fetcher transfer movements promoted servers
  have carried : ∃ item ∈ promoted, credential ∈ item.credentials := by
    decide +kernel
  have applies : credential.appliesTo "a.example" = true := by
    decide
  have sameHost : ∀ item ∈ promoted, item.url.hostText? = some "a.example" := by
    decide +kernel
  obtain ⟨item, member, own⟩ := carried
  obtain ⟨held, last, isLast, -, offered⟩ :=
    run_holds_promoted fetcher items .empty "a.example" movements item member credential own
      applies
  have named := sameHost last (List.mem_of_getLast? isLast)
  exact ⟨⟨item, member, own⟩, applies, held, offered (.inr ⟨_, named, by decide⟩)⟩

/-- A server that has accepted a credential for one of its realms gets one for another realm with an
item from elsewhere. It holds both then and is offered neither.
-/
theorem run_holds_promoted_unanswered
    : let url (host path : String) : Url :=
        ⟨"http", "", none, true, some (.domain host), none, .segments [path], none, none⟩
      let credential : Credential := ⟨"a.example", some "r", "user", "word"⟩
      let items (number : Nat) : CrawlItem :=
        match number with
        | 0 =>
          { CrawlItem.new (url "a.example" "one") with
            credentials := [credential]
            challenges := Challenges.empty.insert "r" "Basic realm=r" }
        | 1 =>
          { CrawlItem.new (url "b.example" "") with
            credentials :=
              [⟨"b.example", none, "other", "word"⟩, ⟨"a.example", some "s", "third", "word"⟩] }
        | _ => .new (url "a.example" "two")
      let fetcher : Fetcher := ⟨FetchConfig.standard, .empty, ⟨[]⟩⟩
      let reply : Reply := ⟨0, .response ⟨200, .http11, .empty⟩ []⟩
      let fetch (traffic : Traffic) (number : Nat) : Traffic :=
        let launch := fetcher.launch traffic.shared.servers (traffic.items number) ⟨0, 0⟩ 0
        let transfer : Transfer Float := .run fetcher.config launch none (some reply)
        traffic.run fetcher [.takeOff number ⟨0, 0⟩ 0, .land number transfer ⟨0, 0⟩]
      let screens : List (Movement Float) := [.screen 0, .screen 1, .screen 2]
      let promoted := fetch ((start items .empty).run fetcher screens) 0
      let later := fetch promoted 1
      let asked := fetch later 2
      credential ∈ promoted.shared.servers.credentialsOf "a.example"
      ∧ credential.answers (promoted.shared.servers.challengesOf "a.example") = true
      ∧ credential ∈ later.shared.servers.credentialsOf "a.example"
      ∧ credential.answers (later.shared.servers.challengesOf "a.example") = false
      ∧ Fetcher.knownCredential? later.shared.servers "a.example" = none
      ∧ asked.requests.map (fun request => (request.headers.values "authorization").length)
        = [1, 1, 0] := by
  decide +kernel

end Traffic

end WebHarvest.Fetch
