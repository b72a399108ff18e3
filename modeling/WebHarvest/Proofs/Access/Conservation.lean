import WebHarvest.Proofs.Access.Places

/-! Promotion as a whole: which credentials each server gains from an item, in which order, and what
stays as it was. No credential for a known server is lost, and none comes to a server twice.
-/

namespace WebHarvest.Access

namespace Server

/-- What a server gains from some credentials: those for its host that it does not hold yet, in
order and each of them once.
-/
def gains (server : Server) (credentials : List Credential) : List Credential :=
  ((credentials.filter (·.appliesTo server.key)).removeAll server.credentials).eraseDups

/-- A server that is offered a credential takes it, and other challenges with it, if it is for the
server's host.
-/
def receive (challenges : Challenges) (server : Server) (credential : Credential) : Server :=
  if credential.appliesTo server.key then
    (server.addCredential credential).setChallenges challenges
  else server

variable {server : Server} {credential : Credential}

theorem key_receive (challenges : Challenges) (server : Server) (credential : Credential)
    : (server.receive challenges credential).key = server.key := by
  unfold receive
  split
  · exact (server.addCredential_keeps credential).1
  · rfl

/-- A credential for another host brings nothing. -/
theorem gains_cons_of_other (other : credential.appliesTo server.key = false)
    (rest : List Credential)
    : server.gains (credential :: rest) = server.gains rest := by
  simp [gains, other]

/-- Nor does one that the server holds. -/
theorem gains_cons_of_held (held : credential ∈ server.credentials) (rest : List Credential)
    : server.gains (credential :: rest) = server.gains rest := by
  unfold gains
  by_cases applies : credential.appliesTo server.key = true
  · simp [applies, List.removeAll, held]
  · simp [applies]

/-- A new one is gained in front of what the server gains from the rest once it holds this one. -/
theorem gains_cons_of_new (applies : credential.appliesTo server.key = true)
    (new : credential ∉ server.credentials) (rest : List Credential)
    : server.gains (credential :: rest)
      = credential
        :: gains { server with credentials := server.credentials ++ [credential] } rest := by
  have removed (others : List Credential)
      : (others.removeAll server.credentials).filter (fun other => !other == credential)
        = others.removeAll (server.credentials ++ [credential]) := by
    simp [List.removeAll, List.filter_filter, Bool.and_comm, Bool.beq_eq_decide_eq]
  unfold gains
  rw [← removed, ← List.eraseDups_cons]
  simp [applies, List.removeAll, new]

/-- A server that is offered several credentials in turn holds what it gains from them behind what
it held, and has the other challenges if any was for its host, by induction on the credentials.
-/
theorem foldl_receive (challenges : Challenges) (server : Server) (credentials : List Credential)
    : credentials.foldl (receive challenges) server
      = { server with
          credentials := server.credentials ++ server.gains credentials
          challenges :=
            if credentials.any (·.appliesTo server.key) then challenges
            else server.challenges } := by
  induction credentials generalizing server with
  | nil => simp [gains, List.removeAll]
  | cons credential rest ih =>
      rw [List.foldl_cons, ih, key_receive, List.any_cons]
      cases applies : credential.appliesTo server.key with
      | false => simp [receive, applies, gains_cons_of_other applies]
      | true =>
          by_cases held : credential ∈ server.credentials
          · rw [gains_cons_of_held held]
            simp [receive, applies, addCredential, held, setChallenges, gains]
          · rw [gains_cons_of_new applies held]
            simp [receive, applies, addCredential, held, setChallenges, gains]

end Server

namespace ServerCache

/-- The server of a domain is offered each credential in turn, by induction on them. -/
theorem serverFor?_promoteAll (cache : ServerCache) (challenges : Challenges)
    (credentials : List Credential) (domain : String)
    : (credentials.foldl (ServerCache.promote challenges) cache).serverFor? domain
      = (cache.serverFor? domain).map fun server =>
          credentials.foldl (Server.receive challenges) server := by
  induction credentials generalizing cache with
  | nil => simp
  | cons credential rest ih =>
      rw [List.foldl_cons, ih, serverFor?_promote, Option.map_map]
      cases found : cache.serverFor? domain with
      | none => rfl
      | some server =>
          have applies : credential.appliesTo server.key = credential.appliesTo domain := by
            simp [Credential.appliesTo, Text.sameIgnoringCase, key_of_serverFor? found]
          simp [Server.receive, applies]

/-- Promotion makes and removes no server, and has no part in hosts. -/
theorem promoteAll_frame (cache : ServerCache) (challenges : Challenges)
    (credentials : List Credential)
    : (credentials.foldl (ServerCache.promote challenges) cache).keys = cache.keys
      ∧ (credentials.foldl (ServerCache.promote challenges) cache).hosts = cache.hosts := by
  induction credentials generalizing cache with
  | nil => exact ⟨rfl, rfl⟩
  | cons credential rest ih =>
      have keys : (cache.promote challenges credential).keys = cache.keys := by
        have keyed (server : Server)
            : ((server.addCredential credential).setChallenges challenges).key = server.key :=
          (server.addCredential_keeps credential).1
        simp only [ServerCache.keys, promote, modify, List.map_map]
        congr 1
        funext server
        simp only [Function.comp_apply]
        split
        · exact keyed server
        · rfl
      obtain ⟨keysLater, hostsLater⟩ := ih (cache.promote challenges credential)
      exact ⟨keysLater.trans keys, hostsLater⟩

/-- A server is known for a domain if the domain in lower case is the key of one. -/
theorem isSome_serverFor? (cache : ServerCache) (domain : String)
    : (cache.serverFor? domain).isSome = cache.keys.contains (Text.lowerString domain) := by
  rw [Bool.eq_iff_iff, serverFor?, List.find?_isSome]
  simp [keys]

end ServerCache

end WebHarvest.Access

namespace WebHarvest.CrawlItem

open Access (ServerCache)

/-- Promotion takes all credentials off an item and changes nothing else of it. Each server holds
what it held and then, in the item's order, those of the item's credentials that are for its host
and that it did not hold, each once. It has the item's challenges if any of the item's credentials
is for its host, and its own otherwise. No server is made or removed. The number is that of the
credentials for whose domains a server is known, and promoting once more does nothing.
-/
theorem promote_conserves (item : CrawlItem) (cache : ServerCache)
    : let (count, after, later) := item.promote cache
      after = { item with credentials := [] }
      ∧ (∀ domain,
          later.serverFor? domain
          = (cache.serverFor? domain).map fun server =>
              { server with
                credentials := server.credentials ++ server.gains item.credentials
                challenges :=
                  if item.credentials.any (·.appliesTo server.key) then item.challenges
                  else server.challenges })
      ∧ later.keys = cache.keys
      ∧ later.hosts = cache.hosts
      ∧ count
        = item.credentials.countP (fun credential =>
            cache.keys.contains (Text.lowerString credential.domain))
      ∧ after.promote later = (0, after, later) := by
  obtain ⟨keys, hosts⟩ := cache.promoteAll_frame item.challenges item.credentials
  unfold promote
  refine ⟨rfl, ?_, keys, hosts, ?_, rfl⟩
  · intro domain
    simp only [cache.serverFor?_promoteAll, Access.Server.foldl_receive]
  · simp only [promotable, List.countP_eq_length_filter, cache.isSome_serverFor?]

end WebHarvest.CrawlItem
