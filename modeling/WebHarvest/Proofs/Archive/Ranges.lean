import WebHarvest.Proofs.Archive.Decision
import WebHarvest.Proofs.Capture.Lookup
import WebHarvest.Proofs.Fetch.Ranges

/-! How often contents were seen, and with that the numbers of fetching and archiving together. A
count goes up only for an entry that no revisit can refer to, and starts over behind the greatest.
-/

namespace WebHarvest

/-- A count goes up by one, just if it stays in range. -/
theorem CaptureEntry.seenCount_again_iff (entry : CaptureEntry)
    : entry.again.seenCount = entry.seenCount + 1 ↔ entry.seenCount + 1 < countModulus := by
  have positive : 0 < countModulus := by decide
  constructor
  · intro same
    exact same ▸ Nat.mod_lt _ positive
  · exact Nat.mod_eq_of_lt

namespace Archive

open Calendar (Timestamp)

-----------------------------------------------------------------------------------------
-- How often a content was seen
-----------------------------------------------------------------------------------------

/-- What archiving an item makes of the entry of a key: nothing, the first entry, or one that was
seen once more. The last happens only to an entry without a URL.
-/
inductive Recounts : Option CaptureEntry → Option CaptureEntry → Prop
  | same (entry : Option CaptureEntry) : Recounts entry entry
  | first (capture : Capture) : Recounts none (some capture.first)
  | again {entry : CaptureEntry} (unlocated : entry.url.isEmpty = true)
    : Recounts (some entry) (some entry.again)

/-- Archiving recounts, by cases of the decision: only an item that is no revisit is recorded, and
one whose earlier capture has a URL is a revisit.
-/
theorem recounts_process (policy : Policy) (item : CrawlItem) (wall : Timestamp)
    (archiving : Archiving) (key : CaptureKey)
    : Recounts (archiving.history.lookup? key)
        ((process policy item wall archiving).2.2.history.lookup? key) := by
  let loaded := item.loadEarlier policy.keyByLength archiving.history
  unfold process
  split
  · exact .same _
  · cases revisit : revisitKind? loaded with
    | some kind =>
        obtain ⟨kind, entry⟩ := kind
        obtain ⟨records, ids, concluded, -⟩ := conclude_of_revisit policy wall archiving revisit
        rw [concluded]
        exact .same _
    | none =>
        obtain ⟨records, ids, concluded, -⟩ := conclude_of_new policy wall archiving revisit
        rw [concluded]
        dsimp only
        have same : loaded.dedupKey? policy.keyByLength = item.dedupKey? policy.keyByLength :=
          (archivedFrom_loadEarlier _ _ item).dedupKey? _
        unfold CrawlItem.recordCapture
        cases keyed : loaded.dedupKey? policy.keyByLength with
        | none => exact .same _
        | some own =>
            dsimp only
            rw [CaptureHistory.lookup?_record]
            split
            · rename_i recorded
              subst recorded
              -- The entry of the item's own key was looked up before the decision.
              have earlier : loaded.earlierCapture = archiving.history.lookup? key :=
                earlierCapture_loadEarlier (same ▸ keyed) archiving.history
              rw [revisitKind?_of_keyed keyed, earlier] at revisit
              cases known : archiving.history.lookup? key with
              | none => exact .first _
              | some entry =>
                  rw [known] at revisit
                  refine .again ?_
                  simpa [Option.filter] using revisit
            · exact .same _

-----------------------------------------------------------------------------------------
-- Fetching and archiving together
-----------------------------------------------------------------------------------------

open Fetch in
/-- Whatever is configured, overridden and remembered, and whatever is replied, an attempt has its
ranges. Whatever history was loaded, archiving changes the entry of a key in no way but that it is
there for the first time or, if no revisit can refer to it, seen once more; and its count is exact
unless it was the greatest one.
-/
theorem ranges_of_attempt (α : Type) [Recording.Tokens α] (fetcher : Fetcher) (item : CrawlItem)
    (shared : Shared) (replies : List Reply) (wall : Timestamp) (now : Clock.Instant)
    (cancelAt : Option Clock.Instant) (policy : Policy) (archived : CrawlItem) (later : Timestamp)
    (archiving : Archiving)
    : fetcher.HasRanges α item shared replies wall now cancelAt
      ∧ (∀ key,
          Recounts (archiving.history.lookup? key)
            ((process policy archived later archiving).2.2.history.lookup? key))
      ∧ ∀ entry : CaptureEntry,
          entry.again.seenCount = entry.seenCount + 1 ↔ entry.seenCount + 1 < countModulus :=
  ⟨fetcher.hasRanges α item shared replies wall now cancelAt,
    recounts_process policy archived later archiving,
    CaptureEntry.seenCount_again_iff⟩

open Fetch in
/-- Under settings that are accepted, an item whose snapshot refers to the greatest length ends up
with fewer bytes of content than were recorded; nothing comes of one with the greatest timeout; and
an entry that was seen as often as can be counted starts over.
-/
theorem ranges_of_attempt_exceeded
    : let url : Url :=
        ⟨"http", "", none, true, some (.domain "a"), none, .segments ["x"], none, none⟩
      let greatest := Nat.pow 2 64 - 1
      let config := { FetchConfig.standard with acceptHeaders := [] }
      let fetcher : Fetcher := ⟨config, .empty, ⟨[]⟩⟩
      let known : CrawlItem :=
        { CrawlItem.new url with snapshots := [⟨200, ⟨0, 0⟩, none, none, none, some greatest⟩] }
      let patient : CrawlItem :=
        { CrawlItem.new url with overrides := ⟨none, some greatest, none⟩ }
      let notModified : List Reply := [⟨0, .response ⟨304, .http11, .empty⟩ []⟩]
      let new : List Reply := [⟨0, .response ⟨200, .http11, .empty⟩ [.chunk [104, 105]]⟩]
      let digest := DigestAlgorithm.sha1.digest [104, 105]
      let fetched : CrawlItem :=
        { CrawlItem.new url with
          status := some (.http 200)
          digest := some digest
          recorded := some ⟨21, 19, 30⟩ }
      let archiving : Archiving :=
        ⟨⟨[(.ofDigest digest, ⟨"", ⟨0, 0⟩, "", greatest⟩)]⟩, ⟨fun _ => "", 0⟩⟩
      Fetcher.new config ⟨[]⟩ = .ok fetcher
      ∧ (fetcher.execute? known .empty notModified ⟨0, 0⟩ 0 none : Option (Execution Float)).map
            (fun execution => (execution.recorder.size, execution.item.contentSize))
          = some (29, 28)
      ∧ (fetcher.execute? patient .empty new ⟨0, 0⟩ 0 none : Option (Execution Float)).isNone
      ∧ ((process ⟨false, false⟩ fetched ⟨0, 0⟩ archiving).2.2.history.lookup?
            (.ofDigest digest)).map (·.seenCount)
          = some 0 := by
  intro url greatest config fetcher known patient notModified new digest fetched archiving
  refine ⟨?_, ?_, ?_, ?_⟩
  · rfl
  · decide +kernel
  · decide +kernel
  · decide +kernel

end Archive

end WebHarvest
