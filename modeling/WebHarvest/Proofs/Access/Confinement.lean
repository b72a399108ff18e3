import Mathlib.Data.List.Nodup
import WebHarvest.Access.Promotion

/-! Servers hold credentials for their own domain only. A credential is moved to the server that its
domain names, so that this holds however credentials come to items.
-/

namespace WebHarvest.Text

/-- Folding once is enough, since the number of a folded letter is beyond those of capitals. -/
@[simp]
theorem lowerAscii_lowerAscii (c : Char) : lowerAscii (lowerAscii c) = lowerAscii c := by
  unfold lowerAscii
  split
  · rename_i capital
    obtain ⟨atLeast, atMost⟩ : 'A' ≤ c ∧ c ≤ 'Z' := by simpa using capital
    have lower : 65 ≤ c.toNat := UInt32.le_iff_toNat_le.mp atLeast
    have upper : c.toNat ≤ 90 := UInt32.le_iff_toNat_le.mp atMost
    have valid : (c.toNat + 32).isValidChar := .inl (by omega)
    have folded : (Char.ofNat (c.toNat + 32)).toNat = c.toNat + 32 := by
      rw [Char.ofNat, dif_pos valid]
      rfl
    have beyond : ¬Char.ofNat (c.toNat + 32) ≤ 'Z' := by
      intro again
      have small : (Char.ofNat (c.toNat + 32)).toNat ≤ 90 := UInt32.le_iff_toNat_le.mp again
      omega
    simp [beyond]
  · rfl

@[simp]
theorem lowerString_lowerString (s : String) : lowerString (lowerString s) = lowerString s := by
  simp [lowerString, Function.comp_def]

/-- Two texts are the same but for case if they are folded to the same text. -/
theorem sameIgnoringCase_iff {s t : String}
    : sameIgnoringCase s t = true ↔ lowerString s = lowerString t :=
  beq_iff_eq

end WebHarvest.Text

namespace WebHarvest.Access

variable {known : Credential → Prop}

/-- A server holds credentials of a known origin for its own domain, each of them once. -/
structure Server.IsConfined (known : Credential → Prop) (server : Server) : Prop where
  domain : ∀ credential ∈ server.credentials, credential.appliesTo server.key = true
  known : ∀ credential ∈ server.credentials, known credential
  nodup : server.credentials.Nodup

/-- All servers do. -/
def ServerCache.IsConfined (known : Credential → Prop) (cache : ServerCache) : Prop :=
  ∀ server ∈ cache.servers, server.IsConfined known

/-- A server without credentials has none for another domain. -/
theorem Server.isConfined_of_empty {server : Server} (empty : server.credentials = [])
    : server.IsConfined known := by
  refine ⟨?_, ?_, ?_⟩ <;> simp [empty]

theorem Server.addCredential_keeps (server : Server) (credential : Credential)
    : (server.addCredential credential).key = server.key
      ∧ server.credentials <+: (server.addCredential credential).credentials
      ∧ credential ∈ (server.addCredential credential).credentials := by
  unfold addCredential
  split
  · rename_i held
    exact ⟨rfl, List.prefix_rfl, List.contains_iff_mem.mp held⟩
  · exact ⟨rfl, List.prefix_append _ _, by simp⟩

theorem Server.mem_addCredential {server : Server} {credential other : Credential}
    (held : other ∈ (server.addCredential credential).credentials)
    : other ∈ server.credentials ∨ other = credential := by
  unfold Server.addCredential at held
  split at held
  · exact .inl held
  · exact (List.mem_append.mp held).imp_right List.mem_singleton.mp

/-- A credential that a server already has is not added again. -/
theorem Server.nodup_addCredential {server : Server} (once : server.credentials.Nodup)
    (credential : Credential)
    : (server.addCredential credential).credentials.Nodup := by
  unfold Server.addCredential
  split
  · exact once
  · rename_i absent
    refine List.nodup_append.mpr ⟨once, List.nodup_singleton _, ?_⟩
    rintro other member _ single rfl
    rw [List.mem_singleton.mp single] at member
    exact absent (List.contains_iff_mem.mpr member)

/-- A server may get a credential for its domain, and other challenges. -/
theorem Server.IsConfined.addCredential {server : Server} (confined : server.IsConfined known)
    {credential : Credential} (applies : credential.appliesTo server.key = true)
    (origin : known credential) (challenges : Challenges)
    : ((server.addCredential credential).setChallenges challenges).IsConfined known := by
  obtain ⟨key, -, -⟩ := server.addCredential_keeps credential
  refine ⟨?_, ?_, Server.nodup_addCredential confined.nodup credential⟩
  · intro other member
    rw [Server.setChallenges, key]
    rcases Server.mem_addCredential member with held | rfl
    · exact confined.domain other held
    · exact applies
  · intro other member
    rcases Server.mem_addCredential member with held | rfl
    · exact confined.known other held
    · exact origin

namespace ServerCache

variable {cache : ServerCache}

/-- A server that is made sure of holds nothing yet. -/
theorem IsConfined.ensure (confined : cache.IsConfined known) (domain : String)
    : (cache.ensure domain).IsConfined known := by
  unfold ServerCache.ensure
  split
  · exact confined
  · intro server member
    rcases List.mem_append.mp member with old | new
    · exact confined server old
    · rw [List.mem_singleton.mp new]
      exact Server.isConfined_of_empty rfl

/-- A credential is moved to the server of its own domain only. -/
theorem IsConfined.promote (confined : cache.IsConfined known) {credential : Credential}
    (origin : known credential) (challenges : Challenges)
    : (cache.promote challenges credential).IsConfined known := by
  intro server member
  obtain ⟨before, held, rfl⟩ := List.mem_map.mp member
  split
  · rename_i same
    refine (confined before held).addCredential ?_ origin challenges
    rw [Credential.appliesTo, Text.sameIgnoringCase_iff, beq_iff_eq.mp same,
      Text.lowerString_lowerString]
  · exact confined before held

/-- So are all credentials of an item, by induction on them. -/
theorem IsConfined.promoteAll (confined : cache.IsConfined known)
    {credentials : List Credential} (origins : ∀ credential ∈ credentials, known credential)
    (challenges : Challenges)
    : (credentials.foldl (ServerCache.promote challenges) cache).IsConfined known := by
  induction credentials generalizing cache with
  | nil => exact confined
  | cons credential rest ih =>
      apply ih (confined.promote (origins credential List.mem_cons_self) challenges)
      intro later member
      exact origins later (List.mem_cons_of_mem _ member)

/-- A credential of the server that is found for a host is one for the host. -/
theorem IsConfined.appliesTo (confined : cache.IsConfined known) {host : String}
    {server : Server} (found : cache.serverFor? host = some server) {credential : Credential}
    (held : credential ∈ server.credentials)
    : credential.appliesTo host = true ∧ known credential := by
  have member : server ∈ cache.servers := List.mem_of_find?_eq_some found
  have key : server.key = Text.lowerString host := by
    simpa using List.find?_some found
  have applies := (confined server member).domain credential held
  rw [key, Credential.appliesTo, Text.sameIgnoringCase_iff, Text.lowerString_lowerString]
    at applies
  exact ⟨Text.sameIgnoringCase_iff.mpr applies, (confined server member).known credential held⟩

end ServerCache

end WebHarvest.Access
