import WebHarvest.Proofs.Access.Promotion

/-! Servers by their places. Making sure of a server and adding a credential to one leave every
server in its place, with all that it holds.
-/

namespace WebHarvest.Access

namespace ServerCache

/-- The place of a domain's server. Servers are added at the end and never removed, so that its
place tells which server it is, whatever is changed in it.
-/
def place? (cache : ServerCache) (domain : String) : Option Nat :=
  cache.servers.findIdx? (·.key == Text.lowerString domain)

/-- Changes the server at a place. -/
def modifyAt (cache : ServerCache) (place : Nat) (change : Server → Server) : ServerCache :=
  { cache with servers := cache.servers.modify place change }

/-- The keys of all servers. -/
def keys (cache : ServerCache) : List String :=
  cache.servers.map (·.key)

variable {cache later last : ServerCache} {domain : String} {place : Nat} {server : Server}

-----------------------------------------------------------------------------------------
-- Which server is at a place
-----------------------------------------------------------------------------------------

theorem place?_eq (cache : ServerCache) (domain : String)
    : cache.place? domain = cache.keys.findIdx? (· == Text.lowerString domain) := by
  rw [keys, List.findIdx?_map]
  rfl

theorem place?_eq_none_iff : cache.place? domain = none ↔ cache.serverFor? domain = none := by
  rw [place?, List.findIdx?_eq_none_iff, serverFor?, List.find?_eq_none]
  simp

/-- What is at the place of a domain is the domain's server. -/
theorem serverFor?_of_place? (found : cache.place? domain = some place)
    : ∃ server,
        cache.servers[place]? = some server
        ∧ server.key = Text.lowerString domain
        ∧ cache.serverFor? domain = some server := by
  have same : cache.serverFor? domain = (cache.place? domain).bind (cache.servers[·]?) :=
    List.find?_eq_bind_findIdx?_getElem?
  obtain ⟨inside, keyed, -⟩ := List.findIdx?_eq_some_iff_getElem.mp found
  have there := List.getElem?_eq_getElem inside
  exact ⟨cache.servers[place], there, by simpa using keyed, by rw [same, found]; exact there⟩

theorem getElem?_modifyAt (cache : ServerCache) (place other : Nat) (change : Server → Server)
    : (cache.modifyAt place change).servers[other]?
      = (cache.servers[other]?).map fun server =>
          if place = other then change server else server :=
  List.getElem?_modify _ _ _ _

theorem keys_modifyAt {change : Server → Server}
    (keyed : ∀ server, (change server).key = server.key) (cache : ServerCache) (place : Nat)
    : (cache.modifyAt place change).keys = cache.keys := by
  apply List.ext_getElem?
  intro other
  rw [keys, keys, List.getElem?_map, List.getElem?_map, getElem?_modifyAt, Option.map_map]
  congr 1
  funext server
  by_cases here : place = other <;> simp [here, keyed]

/-- Every server is known under its own key in lower case, and holds no credential twice. -/
structure IsOrderly (cache : ServerCache) : Prop where
  folded : ∀ key ∈ cache.keys, Text.lowerString key = key
  nodup : cache.keys.Nodup
  once : ∀ server ∈ cache.servers, server.credentials.Nodup

/-- A change at the place of a domain is a change of the domain's server, since no other has its
key.
-/
theorem modifyAt_eq_modify (orderly : cache.IsOrderly) (found : cache.place? domain = some place)
    (change : Server → Server)
    : cache.modifyAt place change = cache.modify domain change := by
  obtain ⟨server, there, keyed, -⟩ := serverFor?_of_place? found
  suffices same : (cache.modifyAt place change).servers = (cache.modify domain change).servers by
    exact congrArg (ServerCache.mk cache.hosts) same
  apply List.ext_getElem?
  intro other
  rw [getElem?_modifyAt, modify, List.getElem?_map]
  cases held : cache.servers[other]? with
  | none => rfl
  | some candidate =>
      have here : place = other ↔ candidate.key = Text.lowerString domain := by
        constructor
        · rintro rfl
          rw [there] at held
          cases held
          exact keyed
        · intro same
          have first : cache.keys[place]? = some (Text.lowerString domain) := by
            rw [keys, List.getElem?_map, there, ← keyed]
            rfl
          have second : cache.keys[other]? = some (Text.lowerString domain) := by
            rw [keys, List.getElem?_map, held, ← same]
            rfl
          exact (List.getElem?_inj (List.getElem?_eq_some_iff.mp first).1 orderly.nodup).mp
            (first.trans second.symm)
      simp [here]

-----------------------------------------------------------------------------------------
-- How servers grow
-----------------------------------------------------------------------------------------

/-- Servers may have been added at the end, and credentials to servers. -/
structure GrowsTo (cache later : ServerCache) : Prop where
  keys : cache.keys <+: later.keys
  credentials
    : ∀ (place : Nat) (server : Server),
        cache.servers[place]? = some server
        → ∃ grown, later.servers[place]? = some grown ∧ server.credentials <+: grown.credentials

theorem GrowsTo.refl (cache : ServerCache) : cache.GrowsTo cache :=
  ⟨List.prefix_rfl, fun _ server found => ⟨server, found, List.prefix_rfl⟩⟩

theorem GrowsTo.trans (first : cache.GrowsTo later) (second : later.GrowsTo last)
    : cache.GrowsTo last where
  keys := first.keys.trans second.keys
  credentials place server found := by
    obtain ⟨grown, there, kept⟩ := first.credentials place server found
    obtain ⟨final, still, all⟩ := second.credentials place grown there
    exact ⟨final, still, kept.trans all⟩

/-- A server stays in its place. -/
theorem GrowsTo.place? (grows : cache.GrowsTo later) (found : cache.place? domain = some place)
    : later.place? domain = some place := by
  obtain ⟨added, keys⟩ := grows.keys
  rw [place?_eq] at found
  rw [place?_eq, ← keys, List.findIdx?_append, found]
  rfl

theorem ensure_of_unknown (unknown : cache.serverFor? domain = none)
    : cache.ensure domain
      = { cache with servers := cache.servers ++ [.fresh (Text.lowerString domain)] } := by
  rw [ensure, unknown]
  rfl

theorem growsTo_ensure (cache : ServerCache) (domain : String)
    : cache.GrowsTo (cache.ensure domain) := by
  cases known : cache.serverFor? domain with
  | some server =>
      rw [ensure, if_pos (by simp [known])]
      exact .refl cache
  | none =>
      rw [ensure_of_unknown known]
      refine ⟨by simp [ServerCache.keys], ?_⟩
      intro place server found
      have inside := (List.getElem?_eq_some_iff.mp found).1
      exact ⟨server, by rw [List.getElem?_append_left inside, found], List.prefix_rfl⟩

/-- Making sure of a server finds a place for it. -/
theorem exists_place?_ensure (cache : ServerCache) (domain : String)
    : ∃ place, (cache.ensure domain).place? domain = some place := by
  cases found : (cache.ensure domain).place? domain with
  | some place => exact ⟨place, rfl⟩
  | none =>
      have known := isSome_serverFor?_ensure cache domain
      rw [place?_eq_none_iff.mp found] at known
      cases known

/-- A server that is made gets the key that no server had. -/
theorem IsOrderly.ensure (orderly : cache.IsOrderly) (domain : String)
    : (cache.ensure domain).IsOrderly := by
  cases known : cache.serverFor? domain with
  | some server =>
      rw [ServerCache.ensure, if_pos (by simp [known])]
      exact orderly
  | none =>
      rw [ensure_of_unknown known]
      have keys
          : ServerCache.keys
              { cache with servers := cache.servers ++ [.fresh (Text.lowerString domain)] }
            = cache.keys ++ [Text.lowerString domain] := by
        simp [ServerCache.keys, Server.fresh]
      have absent : Text.lowerString domain ∉ cache.keys := by
        intro member
        obtain ⟨server, among, keyed⟩ := List.mem_map.mp member
        have different := List.find?_eq_none.mp known server among
        simp [keyed] at different
      refine ⟨?_, ?_, ?_⟩
      · intro key member
        rw [keys] at member
        rcases List.mem_append.mp member with before | made
        · exact orderly.folded key before
        · rw [List.mem_singleton.mp made, Text.lowerString_lowerString]
      · rw [keys]
        refine List.nodup_append.mpr ⟨orderly.nodup, List.nodup_singleton _, ?_⟩
        rintro key member _ single rfl
        rw [List.mem_singleton.mp single] at member
        exact absent member
      · intro server member
        rcases List.mem_append.mp member with before | made
        · exact orderly.once server before
        · rw [List.mem_singleton.mp made]
          exact List.nodup_nil

theorem growsTo_addCredential (cache : ServerCache) (place : Nat) (credential : Credential)
    : cache.GrowsTo (cache.modifyAt place (·.addCredential credential)) := by
  have keys := keys_modifyAt (fun server => (server.addCredential_keeps credential).1) cache place
  refine ⟨keys ▸ List.prefix_rfl, ?_⟩
  intro other server found
  rw [getElem?_modifyAt, found]
  by_cases here : place = other
  · exact ⟨_, rfl, by simpa [here] using (server.addCredential_keeps credential).2.1⟩
  · exact ⟨_, rfl, by simp [here]⟩

theorem IsOrderly.addCredential (orderly : cache.IsOrderly) (place : Nat)
    (credential : Credential)
    : (cache.modifyAt place (·.addCredential credential)).IsOrderly := by
  have keys := keys_modifyAt (fun server => (server.addCredential_keeps credential).1) cache place
  refine ⟨keys ▸ orderly.folded, keys ▸ orderly.nodup, ?_⟩
  intro server member
  obtain ⟨other, found⟩ := List.getElem?_of_mem member
  rw [getElem?_modifyAt] at found
  obtain ⟨before, held, rfl⟩ := Option.map_eq_some_iff.mp found
  have once := orderly.once before (List.mem_of_getElem? held)
  split
  · exact Server.nodup_addCredential once credential
  · exact once

end ServerCache

end WebHarvest.Access
