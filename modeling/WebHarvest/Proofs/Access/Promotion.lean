import WebHarvest.Proofs.Access.Confinement

/-! What servers make of the credentials that are moved to them: a server keeps all that it holds,
but the challenges of an item take the place of its own.
-/

namespace WebHarvest.Access

namespace ServerCache

/-- The credentials that the server of a domain holds; none if no server is known. -/
def credentialsOf (cache : ServerCache) (domain : String) : List Credential :=
  ((cache.serverFor? domain).map (·.credentials)).getD []

/-- The challenges that the server of a domain is known for. -/
def challengesOf (cache : ServerCache) (domain : String) : Challenges :=
  ((cache.serverFor? domain).map (·.challenges)).getD .empty

variable {cache : ServerCache} {domain : String} {server : Server}

-----------------------------------------------------------------------------------------
-- The server of a domain after a change
-----------------------------------------------------------------------------------------

theorem key_of_serverFor? (found : cache.serverFor? domain = some server)
    : server.key = Text.lowerString domain := by
  simpa using List.find?_some found

/-- A change that leaves keys as they are changes the server of its domain and no other. -/
theorem serverFor?_modify (cache : ServerCache) (domain other : String)
    {change : Server → Server} (keyed : ∀ server, (change server).key = server.key)
    : (cache.modify other change).serverFor? domain
      = (cache.serverFor? domain).map fun server =>
          if server.key == Text.lowerString other then change server else server := by
  have same (server : Server)
      : (if server.key == Text.lowerString other then change server else server).key
        = server.key := by
    split
    · exact keyed server
    · rfl
  simp only [serverFor?, modify, List.find?_map, Function.comp_def, same]

/-- Making sure of a server tells nothing new about any. -/
theorem ensure_keeps (cache : ServerCache) (domain other : String)
    : (cache.ensure other).credentialsOf domain = cache.credentialsOf domain
      ∧ (cache.ensure other).challengesOf domain = cache.challengesOf domain := by
  unfold ensure credentialsOf challengesOf
  split
  · exact ⟨rfl, rfl⟩
  · cases found : cache.serverFor? domain with
    | some server =>
        let fresh := Server.fresh (Text.lowerString other)
        have stays
            : { cache with servers := cache.servers ++ [fresh] }.serverFor? domain
              = some server := by
          simp only [serverFor?] at found
          simp [serverFor?, List.find?_append, found]
        rw [stays]
        exact ⟨rfl, rfl⟩
    | none =>
        simp only [serverFor?] at found
        simp only [serverFor?, List.find?_append, found, Option.none_or, List.find?_singleton]
        split
        · exact ⟨rfl, rfl⟩
        · exact ⟨rfl, rfl⟩

theorem isSome_serverFor?_ensure (cache : ServerCache) (domain : String)
    : ((cache.ensure domain).serverFor? domain).isSome := by
  unfold ensure
  split
  · assumption
  · simp [serverFor?, List.find?_append, Server.fresh]

-----------------------------------------------------------------------------------------
-- The server of a domain after credentials were moved
-----------------------------------------------------------------------------------------

/-- A credential that is moved changes the server of its own domain, if that is known. -/
theorem serverFor?_promote (cache : ServerCache) (challenges : Challenges)
    (credential : Credential) (domain : String)
    : (cache.promote challenges credential).serverFor? domain
      = (cache.serverFor? domain).map fun server =>
          if credential.appliesTo domain then
            (server.addCredential credential).setChallenges challenges
          else server := by
  have keyed (server : Server)
      : ((server.addCredential credential).setChallenges challenges).key = server.key :=
    (server.addCredential_keeps credential).1
  unfold promote
  rw [serverFor?_modify cache domain credential.domain keyed]
  cases found : cache.serverFor? domain with
  | none => rfl
  | some server =>
      have applies
          : server.key == Text.lowerString credential.domain
            ↔ credential.appliesTo domain = true := by
        rw [key_of_serverFor? found, Credential.appliesTo, Text.sameIgnoringCase_iff, beq_iff_eq]
        exact eq_comm
      simp only [Option.map_some, applies]

/-- All credentials of an item that are for the domain are moved to its server, and with any of them
the challenges of the item, by induction on the credentials.
-/
theorem promoteAll_keeps (found : cache.serverFor? domain = some server)
    (challenges : Challenges) (credentials : List Credential)
    : ∃ later,
        (credentials.foldl (ServerCache.promote challenges) cache).serverFor? domain = some later
        ∧ server.credentials <+: later.credentials
        ∧ (∀ credential ∈ credentials,
            credential.appliesTo domain = true → credential ∈ later.credentials)
        ∧ later.challenges
          = if credentials.any (·.appliesTo domain) then challenges else server.challenges := by
  induction credentials generalizing cache server with
  | nil => exact ⟨server, found, List.prefix_rfl, by simp, by simp⟩
  | cons credential rest ih =>
      have promoted := serverFor?_promote cache challenges credential domain
      rw [found, Option.map_some] at promoted
      obtain ⟨later, foundLater, held, moved, known⟩ := ih promoted
      obtain ⟨-, kept, added⟩ := server.addCredential_keeps credential
      cases applies : credential.appliesTo domain with
      | true =>
          simp only [applies, if_true] at held known
          refine ⟨later, foundLater, kept.trans held, ?_, ?_⟩
          · intro other member own
            rcases List.mem_cons.mp member with rfl | among
            · exact held.subset added
            · exact moved other among own
          · rw [known]
            simp [applies, Server.setChallenges]
      | false =>
          simp only [applies, Bool.false_eq_true, if_false] at held known
          refine ⟨later, foundLater, held, ?_, ?_⟩
          · intro other member own
            rcases List.mem_cons.mp member with rfl | among
            · rw [applies] at own
              cases own
            · exact moved other among own
          · rw [known, List.any_cons, applies, Bool.false_or]

/-- Where no server of the domain is known, none comes of credentials either. -/
theorem promoteAll_of_unknown (unknown : cache.serverFor? domain = none)
    (challenges : Challenges) (credentials : List Credential)
    : (credentials.foldl (ServerCache.promote challenges) cache).serverFor? domain = none := by
  induction credentials generalizing cache with
  | nil => exact unknown
  | cons credential rest ih =>
      apply ih
      rw [serverFor?_promote, unknown]
      rfl

end ServerCache

end WebHarvest.Access
