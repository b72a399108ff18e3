import Mathlib.Logic.Function.Basic
import WebHarvest.Proofs.Access.Places

/-! Clients that ask for servers at the same time. A client probes for a key first; if there is no
server yet, it makes sure of one later, and between the two any others may come. All get the same
server for the same key, and no credential that was added to it is lost.
-/

namespace WebHarvest.Access

-----------------------------------------------------------------------------------------
-- Clients and their steps
-----------------------------------------------------------------------------------------

/-- A client has nothing under way, or has probed for a key in vain and has yet to make sure of its
server.
-/
inductive Client where
  | idle
  | missed (key : String)

/-- A server that was given out: the key that was asked for, and the server's place. -/
structure Handle where
  key : String
  place : Nat

/-- Clients by number, the servers that all of them share, the servers that were given out, and the
credentials that were added through these, both in the order in which that happened.
-/
structure Clients where
  clients : Nat → Client
  cache : ServerCache
  handles : List Handle
  added : List (Handle × Credential)

/-- What happens next: a client probes for a key, or makes sure of the server that it has missed;
somebody looks a server up; or a credential is added to the server that was given out with a number.
-/
inductive ClientStep where
  | probe (client : Nat) (key : String)
  | settle (client : Nat)
  | look (key : String)
  | add (number : Nat) (credential : Credential)

namespace Clients

/-- Nobody has asked for a server yet. -/
def start : Clients :=
  ⟨fun _ => .idle, .empty, [], []⟩

/-- Gives out the server of a key, if there is one. -/
def give (all : Clients) (key : String) : Clients :=
  { all with handles := all.handles ++ ((all.cache.place? key).map (Handle.mk key)).toList }

/-- One step. Nothing happens if it is not the client's next one, or if no server was given out with
the number.
-/
def step (all : Clients) : ClientStep → Clients
  | .probe client key =>
    match all.clients client, all.cache.serverFor? key with
    | .idle, some _ => all.give key
    | .idle, none => { all with clients := Function.update all.clients client (.missed key) }
    | .missed _, _ => all
  | .settle client =>
    match all.clients client with
    | .missed key =>
      { all with
        clients := Function.update all.clients client .idle
        cache := all.cache.ensure key }.give key
    | .idle => all
  | .look key => all.give key
  | .add number credential =>
    match all.handles[number]? with
    | some handle =>
      { all with
        cache := all.cache.modifyAt handle.place (·.addCredential credential)
        added := all.added ++ [(handle, credential)] }
    | none => all

/-- Steps in order. -/
def run (all : Clients) (steps : List ClientStep) : Clients :=
  steps.foldl step all

variable {all : Clients}

/-- A client that makes sure of a server at once after it has missed it does so as a whole. -/
theorem run_probe_settle {client : Nat} {key : String} (idle : all.clients client = .idle)
    (unknown : all.cache.serverFor? key = none)
    : (all.run [.probe client key, .settle client]).cache = all.cache.ensure key
      ∧ (all.run [.probe client key, .settle client]).clients = all.clients := by
  constructor
  · simp [run, step, give, idle, unknown]
  · simp only [run, List.foldl_cons, List.foldl_nil, step, give, idle, unknown,
      Function.update_self, Function.update_idem]
    rw [← idle, Function.update_eq_self]

-----------------------------------------------------------------------------------------
-- What a step keeps
-----------------------------------------------------------------------------------------

/-- What every step keeps: servers are in order, each server that was given out is at its place, and
holds each credential that was added to it.
-/
structure IsSound (all : Clients) : Prop where
  orderly : all.cache.IsOrderly
  given : ∀ handle ∈ all.handles, all.cache.place? handle.key = some handle.place
  held
    : ∀ addition ∈ all.added,
        addition.1 ∈ all.handles
        ∧ ∃ server,
            all.cache.servers[addition.1.place]? = some server
            ∧ addition.2 ∈ server.credentials

theorem isSound_start : start.IsSound where
  orderly := ⟨by simp [start, ServerCache.keys, ServerCache.empty], List.nodup_nil, by
    simp [start, ServerCache.empty]⟩
  given := by simp [start]
  held := by simp [start]

/-- Servers may grow, and nothing else needs to be known of the clients. -/
theorem IsSound.grow (sound : all.IsSound) {cache : ServerCache} (grows : all.cache.GrowsTo cache)
    (orderly : cache.IsOrderly) (clients : Nat → Client)
    : ({ all with clients, cache } : Clients).IsSound where
  orderly := orderly
  given handle member := grows.place? (sound.given handle member)
  held addition member := by
    obtain ⟨given, server, there, holds⟩ := sound.held addition member
    obtain ⟨grown, still, kept⟩ := grows.credentials _ server there
    exact ⟨given, grown, still, kept.subset holds⟩

theorem IsSound.give (sound : all.IsSound) (key : String) : (all.give key).IsSound where
  orderly := sound.orderly
  given handle member := by
    rcases List.mem_append.mp member with before | given
    · exact sound.given handle before
    · obtain ⟨place, found, rfl⟩ := Option.map_eq_some_iff.mp (Option.mem_toList.mp given)
      exact found
  held addition member := by
    obtain ⟨given, holds⟩ := sound.held addition member
    exact ⟨List.mem_append_left _ given, holds⟩

/-- Each step keeps it, by cases of the step; in the last case the server that gets the credential
is the one that was given out.
-/
theorem IsSound.step (sound : all.IsSound) (next : ClientStep) : (all.step next).IsSound := by
  cases next with
  | probe client key =>
      simp only [Clients.step]
      split
      · exact sound.give key
      · exact sound.grow (.refl _) sound.orderly _
      · exact sound
  | settle client =>
      simp only [Clients.step]
      split
      · rename_i key _
        exact (sound.grow (all.cache.growsTo_ensure key) (sound.orderly.ensure key) _).give key
      · exact sound
  | look key => exact sound.give key
  | add number credential =>
      simp only [Clients.step]
      split
      · rename_i handle numbered
        have given := List.mem_of_getElem? numbered
        have grown :=
          sound.grow (all.cache.growsTo_addCredential handle.place credential)
            (sound.orderly.addCredential handle.place credential) all.clients
        refine ⟨grown.orderly, grown.given, ?_⟩
        intro addition member
        rcases List.mem_append.mp member with before | new
        · exact grown.held addition before
        · obtain rfl := List.mem_singleton.mp new
          obtain ⟨server, there, -⟩ := ServerCache.serverFor?_of_place? (sound.given handle given)
          refine ⟨given, server.addCredential credential, ?_,
            (server.addCredential_keeps credential).2.2⟩
          simp [ServerCache.getElem?_modifyAt, there]
      · exact sound

/-- Each step lets the servers grow. -/
theorem growsTo_step (all : Clients) (next : ClientStep)
    : all.cache.GrowsTo (all.step next).cache := by
  cases next with
  | probe client key =>
      simp only [step]
      split <;> exact .refl _
  | settle client =>
      simp only [step]
      split
      · exact all.cache.growsTo_ensure _
      · exact .refl _
  | look key => exact .refl _
  | add number credential =>
      simp only [step]
      split
      · exact all.cache.growsTo_addCredential _ _
      · exact .refl _

theorem IsSound.run (sound : all.IsSound) (steps : List ClientStep) : (all.run steps).IsSound := by
  induction steps generalizing all with
  | nil => exact sound
  | cons next steps ih => exact ih (sound.step next)

theorem growsTo_run (all : Clients) (steps : List ClientStep)
    : all.cache.GrowsTo (all.run steps).cache := by
  induction steps generalizing all with
  | nil => exact .refl _
  | cons next steps ih => exact (all.growsTo_step next).trans (ih _)

-----------------------------------------------------------------------------------------
-- One server for each key
-----------------------------------------------------------------------------------------

/-- However the steps of any clients are interleaved, no two servers have keys that differ in case
at most, and a server that has been made stays the server of its key. Every call is answered when
its last section is through. All servers that were given out for a key, by whatever calls and in
whatever order, are the one that is found for it, which has that key in lower case, and what is
changed in them is changed in it. And each credential that was added to a server that was given out
is found there, once.
-/
theorem run_shares (steps : List ClientStep)
    : let all := start.run steps
      (all.cache.keys.Nodup ∧ ∀ key ∈ all.cache.keys, Text.lowerString key = key)
      ∧ (∀ key place,
          all.cache.place? key = some place
          → ∀ more, (all.run more).cache.place? key = some place)
      ∧ (∀ client key,
          all.clients client = .missed key
          → ∃ place,
              (all.step (.settle client)).handles = all.handles ++ [⟨key, place⟩])
      ∧ (∀ handle ∈ all.handles,
          ∃ server,
            all.cache.servers[handle.place]? = some server
            ∧ server.key = Text.lowerString handle.key
            ∧ all.cache.serverFor? handle.key = some server
            ∧ ∀ change,
                all.cache.modifyAt handle.place change = all.cache.modify handle.key change)
      ∧ (∀ handle ∈ all.handles, ∀ other ∈ all.handles,
          Text.sameIgnoringCase handle.key other.key = true → handle.place = other.place)
      ∧ ∀ addition ∈ all.added,
          ∃ server,
            all.cache.serverFor? addition.1.key = some server
            ∧ server.credentials.count addition.2 = 1 := by
  intro all
  have sound : all.IsSound := isSound_start.run steps
  refine ⟨⟨sound.orderly.nodup, sound.orderly.folded⟩, ?_, ?_, ?_, ?_, ?_⟩
  · intro key place found more
    exact (all.growsTo_run more).place? found
  · intro client key missed
    obtain ⟨place, found⟩ := all.cache.exists_place?_ensure key
    exact ⟨place, by simp [step, missed, give, found]⟩
  · intro handle member
    have given := sound.given handle member
    obtain ⟨server, there, keyed, found⟩ := ServerCache.serverFor?_of_place? given
    exact ⟨server, there, keyed, found, ServerCache.modifyAt_eq_modify sound.orderly given⟩
  · intro handle member other among same
    have folded := Text.sameIgnoringCase_iff.mp same
    have found := sound.given handle member
    rw [ServerCache.place?_eq, folded, ← ServerCache.place?_eq, sound.given other among] at found
    exact (Option.some.inj found).symm
  · intro addition member
    obtain ⟨given, held, there, holds⟩ := sound.held addition member
    obtain ⟨server, same, -, found⟩ := ServerCache.serverFor?_of_place? (sound.given _ given)
    obtain rfl : held = server := Option.some.inj (there.symm.trans same)
    exact ⟨held, found,
      List.count_eq_one_of_mem (sound.orderly.once held (List.mem_of_getElem? there)) holds⟩

end Clients

end WebHarvest.Access
