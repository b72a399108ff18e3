import WebHarvest.Proofs.Archive.Decision
import WebHarvest.Proofs.Capture.Keys
import WebHarvest.Proofs.Capture.Storage

/-! One history for crawls that go by the length of contents and crawls that do not. An item is
known from such a history just if an item with the same digest was recorded in the same manner, and
with the same length where that counts.
-/

namespace WebHarvest

-----------------------------------------------------------------------------------------
-- Keys of items
-----------------------------------------------------------------------------------------

namespace CrawlItem

variable {item other : CrawlItem} {digest : ContentDigest} {key : CaptureKey}

/-- The length that an item's key goes by. -/
def keyLength? (byLength : Bool) (item : CrawlItem) : Option Nat :=
  if byLength then item.recorded.map (·.bodySize) else none

theorem captureKey?_eq (byLength : Bool) (item : CrawlItem)
    : item.captureKey? byLength
      = item.digest.map (CaptureKey.ofContent · (item.keyLength? byLength)) := by
  unfold captureKey? keyLength?
  cases byLength <;> cases item.recorded <;> rfl

/-- Items with digests have the same key if they have the same digest and go by the same length, or
both by none.
-/
theorem captureKey?_eq_iff {digest' : ContentDigest} (digested : item.digest = some digest)
    (digested' : other.digest = some digest') (byLength byLength' : Bool)
    : item.captureKey? byLength = other.captureKey? byLength'
      ↔ digest = digest' ∧ item.keyLength? byLength = other.keyLength? byLength' := by
  rw [captureKey?_eq, captureKey?_eq, digested, digested', Option.map_some, Option.map_some,
    Option.some.injEq, CaptureKey.ofContent_inj]

/-- Recorded items go by the same length, or both by none. -/
theorem keyLength?_eq_iff {recorded recorded' : RecordedTransfer}
    (laidOut : item.recorded = some recorded) (laidOut' : other.recorded = some recorded')
    (byLength byLength' : Bool)
    : item.keyLength? byLength = other.keyLength? byLength'
      ↔ byLength = byLength' ∧ (byLength = true → recorded.bodySize = recorded'.bodySize) := by
  rw [keyLength?, keyLength?, laidOut, laidOut']
  cases byLength <;> cases byLength' <;> simp

/-- What takes part in deduplication has the key of its digest. -/
theorem dedupKey?_eq_some_iff {byLength : Bool}
    : item.dedupKey? byLength = some key
      ↔ item.isEligible = true
        ∧ ∃ digest,
            item.digest = some digest
            ∧ CaptureKey.ofContent digest (item.keyLength? byLength) = key := by
  rw [dedupKey?, captureKey?_eq]
  by_cases eligible : item.isEligible
  · rw [if_pos eligible, Option.map_eq_some_iff]
    simp [eligible]
  · simp [eligible]

/-- An item that takes part and was fetched has the layout of its recording. -/
theorem exists_recorded_of_keyed {byLength : Bool} (settled : Fetch.IsSettled item)
    (keyed : item.dedupKey? byLength = some key)
    : ∃ recorded, item.recorded = some recorded := by
  have archivable := Archive.isArchivable_of_keyed settled keyed
  rw [Archive.isArchivable, Bool.and_eq_true] at archivable
  exact Option.isSome_iff_exists.mp archivable.2

end CrawlItem

-----------------------------------------------------------------------------------------
-- Shared histories
-----------------------------------------------------------------------------------------

namespace Archive

open Calendar (Timestamp)

/-- An item was fetched, and perhaps archived since. -/
def IsFetched (item : CrawlItem) : Prop :=
  ∃ start fetched, Fetch.IsAttempted start fetched ∧ ArchivedFrom fetched item

theorem IsFetched.settled {item : CrawlItem} (fetched : IsFetched item) : Fetch.IsSettled item := by
  obtain ⟨start, before, attempted, archived⟩ := fetched
  exact archived.isSettled attempted.settles.1

/-- What a crawl puts into a history: a fetched item, recorded by its length or not. -/
structure Contribution where
  byLength : Bool
  item : CrawlItem
  recordId : String
  wall : Timestamp

namespace Contribution

def capture (contribution : Contribution) : Capture :=
  contribution.item.capture contribution.recordId contribution.wall

def key? (contribution : Contribution) : Option CaptureKey :=
  contribution.item.dedupKey? contribution.byLength

/-- A contribution has the content of an item as a crawl sees it that goes by length or does not:
the digest is the same, it was recorded in that manner, and the lengths are the same if they count.
-/
structure Matches (contribution : Contribution) (byLength : Bool) (item : CrawlItem) : Prop where
  eligible : contribution.item.isEligible = true
  manner : contribution.byLength = byLength
  digest : contribution.item.digest = item.digest
  length
    : byLength = true
      → contribution.item.recorded.map (·.bodySize) = item.recorded.map (·.bodySize)

/-- An entry tells of a contribution. -/
structure IsToldBy (contribution : Contribution) (entry : CaptureEntry) : Prop where
  url : entry.url = contribution.capture.url
  date : entry.date = contribution.capture.date
  recordId : entry.recordId = contribution.capture.recordId

end Contribution

/-- The histories that crawls can bring about, each in its own manner, with what was contributed to
them, the last one first. Between crawls a history is kept at a place and loaded from there.
-/
inductive SharedHistory : List Contribution → CaptureHistory → Prop
  | fresh : SharedHistory [] .empty
  | record {contributions : List Contribution} {history : CaptureHistory}
    (shared : SharedHistory contributions history) (contribution : Contribution)
    (fetched : IsFetched contribution.item)
    (dated : contribution.capture.date.IsCivil)
    : SharedHistory (contribution :: contributions)
        (contribution.item.recordCapture contribution.byLength history contribution.recordId
          contribution.wall).2
  | reload {contributions : List Contribution} {history loaded : CaptureHistory}
    {place kept : Place} (shared : SharedHistory contributions history)
    (persisted : history.persist place = .ok kept)
    (read : CaptureHistory.load kept = .ok loaded)
    : SharedHistory contributions loaded

/-- Each entry of a history tells of a contribution under its key, and each contribution that has a
key has an entry.
-/
structure Stems (history : CaptureHistory) (contributions : List Contribution) : Prop where
  storable : history.IsStorable
  settled : ∀ contribution ∈ contributions, Fetch.IsSettled contribution.item
  origin
    : ∀ key entry,
        history.lookup? key = some entry
        → ∃ contribution ∈ contributions,
            contribution.key? = some key ∧ contribution.IsToldBy entry
  present
    : ∀ contribution ∈ contributions,
        ∀ key, contribution.key? = some key → (history.lookup? key).isSome

variable {history : CaptureHistory} {contributions : List Contribution}

theorem stems_empty : Stems .empty [] where
  storable := CaptureHistory.isStorable_empty
  settled _ member := by cases member
  origin _ _ found := by cases found
  present _ member := by cases member

/-- One more contribution makes the entry of its key or counts it up, which leaves what the entry
tells of.
-/
theorem Stems.record (stems : Stems history contributions) (contribution : Contribution)
    (settled : Fetch.IsSettled contribution.item) (dated : contribution.capture.date.IsCivil)
    : Stems
        (contribution.item.recordCapture contribution.byLength history contribution.recordId
          contribution.wall).2
        (contribution :: contributions) := by
  have settled
      : ∀ each ∈ contribution :: contributions, Fetch.IsSettled each.item :=
    List.forall_mem_cons.mpr ⟨settled, stems.settled⟩
  unfold CrawlItem.recordCapture
  cases keyed : contribution.item.dedupKey? contribution.byLength with
  | none =>
      refine ⟨stems.storable, settled, ?_, ?_⟩
      · intro key entry found
        obtain ⟨earlier, member, same⟩ := stems.origin key entry found
        exact ⟨earlier, List.mem_cons_of_mem _ member, same⟩
      · intro earlier member key keyed'
        rcases List.mem_cons.mp member with rfl | member
        · rw [Contribution.key?, keyed] at keyed'
          cases keyed'
        · exact stems.present earlier member key keyed'
  | some key =>
      refine ⟨stems.storable.record key dated, settled, ?_, ?_⟩
      · intro other entry found
        dsimp only at found
        rw [CaptureHistory.lookup?_record] at found
        split at found
        · rename_i same
          subst same
          cases known : history.lookup? other with
          | none =>
              rw [known] at found
              cases found
              exact ⟨contribution, List.mem_cons_self, keyed, rfl, rfl, rfl⟩
          | some before =>
              rw [known] at found
              cases found
              obtain ⟨earlier, member, same, told⟩ := stems.origin other before known
              exact ⟨earlier, List.mem_cons_of_mem _ member, same, told.url, told.date,
                told.recordId⟩
        · obtain ⟨earlier, member, same⟩ := stems.origin other entry found
          exact ⟨earlier, List.mem_cons_of_mem _ member, same⟩
      · intro earlier member other keyed'
        dsimp only
        rw [CaptureHistory.lookup?_record]
        split
        · rfl
        · rename_i different
          rcases List.mem_cons.mp member with rfl | member
          · rw [Contribution.key?, keyed] at keyed'
            exact absurd (Option.some.inj keyed').symm different
          · exact stems.present earlier member other keyed'

/-- Every shared history stems from what was contributed, by induction on how it came about. -/
theorem SharedHistory.stems (shared : SharedHistory contributions history)
    : Stems history contributions := by
  induction shared with
  | fresh => exact stems_empty
  | record shared contribution fetched dated ih =>
      exact ih.record contribution fetched.settled dated
  | reload shared persisted read ih =>
      rw [CaptureHistory.load_of_persist ih.storable persisted] at read
      cases read
      exact ih

/-- The key of a contribution is that of an item if their contents match. -/
theorem Contribution.key?_eq_iff {contribution : Contribution} {byLength : Bool}
    {item : CrawlItem} {key : CaptureKey} (settled : Fetch.IsSettled contribution.item)
    (settled' : Fetch.IsSettled item) (keyed : item.dedupKey? byLength = some key)
    : contribution.key? = some key ↔ contribution.Matches byLength item := by
  obtain ⟨recorded, laidOut⟩ := CrawlItem.exists_recorded_of_keyed settled' keyed
  obtain ⟨eligible, digest, digested, rfl⟩ := CrawlItem.dedupKey?_eq_some_iff.mp keyed
  rw [key?]
  constructor
  · intro keyed'
    obtain ⟨recorded', laidOut'⟩ := CrawlItem.exists_recorded_of_keyed settled keyed'
    obtain ⟨eligible', digest', digested', same⟩ := CrawlItem.dedupKey?_eq_some_iff.mp keyed'
    obtain ⟨rfl, lengths⟩ := CaptureKey.ofContent_inj.mp same
    obtain ⟨manner, sizes⟩ := (CrawlItem.keyLength?_eq_iff laidOut' laidOut _ _).mp lengths
    refine ⟨eligible', manner, digested'.trans digested.symm, ?_⟩
    intro asked
    rw [laidOut, laidOut', Option.map_some, Option.map_some, sizes (manner.trans asked)]
  · rintro ⟨eligible', manner, sameDigest, sameLength⟩
    rw [CrawlItem.dedupKey?_eq_some_iff]
    refine ⟨eligible', digest, sameDigest.trans digested, ?_⟩
    rw [CaptureKey.ofContent_inj, manner]
    refine ⟨rfl, ?_⟩
    cases byLength
    · rfl
    · simpa [CrawlItem.keyLength?] using sameLength rfl

/-- Keys tell digests and lengths apart, and a key with a length is never one without. So items have
the same key if they have the same digest and go by the same length; for items that were fetched the
length is that of the recorded body. A history that is shared by crawls that go by length and crawls
that do not knows of an item just if one with the same content was recorded in the same manner, and
the entry it has tells of such a one.
-/
theorem contentKeys_separate
    : (∀ digest other : ContentDigest,
        CaptureKey.ofDigest digest = .ofDigest other ↔ digest = other)
      ∧ (∀ (digest other : ContentDigest) (length length' : Nat),
          CaptureKey.ofDigestAndLength digest length = .ofDigestAndLength other length'
          ↔ digest = other ∧ length = length')
      ∧ (∀ (digest other : ContentDigest) (length : Nat),
          CaptureKey.ofDigest digest ≠ .ofDigestAndLength other length)
      ∧ (∀ (item other : CrawlItem) (digest digest' : ContentDigest) (byLength byLength' : Bool),
          item.digest = some digest
          → other.digest = some digest'
          → (item.captureKey? byLength = other.captureKey? byLength'
            ↔ digest = digest' ∧ item.keyLength? byLength = other.keyLength? byLength'))
      ∧ (∀ (start start' item other : CrawlItem) (digest digest' : ContentDigest),
          Fetch.IsAttempted start item
          → Fetch.IsAttempted start' other
          → Fetch.IsMeasured start
          → Fetch.IsMeasured start'
          → item.digest = some digest
          → other.digest = some digest'
          → ∃ recorded recorded',
              item.recorded = some recorded
              ∧ other.recorded = some recorded'
              ∧ (item.captureKey? false = other.captureKey? false ↔ digest = digest')
              ∧ (item.captureKey? true = other.captureKey? true
                ↔ digest = digest' ∧ recorded.bodySize = recorded'.bodySize)
              ∧ item.captureKey? true ≠ other.captureKey? false)
      ∧ ∀ (contributions : List Contribution) (history : CaptureHistory) (item : CrawlItem)
          (byLength : Bool) (key : CaptureKey),
          SharedHistory contributions history
          → IsFetched item
          → item.dedupKey? byLength = some key
          → ((history.lookup? key).isSome
              ↔ ∃ contribution ∈ contributions, contribution.Matches byLength item)
            ∧ ∀ entry,
                history.lookup? key = some entry
                → ∃ contribution ∈ contributions,
                    contribution.Matches byLength item ∧ contribution.IsToldBy entry := by
  refine ⟨fun _ _ => CaptureKey.ofDigest_inj, fun _ _ _ _ => CaptureKey.ofDigestAndLength_inj,
    CaptureKey.ofDigest_ne_ofDigestAndLength, ?_, ?_, ?_⟩
  · intro item other digest digest' byLength byLength' digested digested'
    exact CrawlItem.captureKey?_eq_iff digested digested' byLength byLength'
  · intro start start' item other digest digest' attempted attempted' measured measured' digested
      digested'
    obtain ⟨recorded, laidOut⟩ :=
      Option.isSome_iff_exists.mp (attempted.isMeasured measured (digested ▸ rfl))
    obtain ⟨recorded', laidOut'⟩ :=
      Option.isSome_iff_exists.mp (attempted'.isMeasured measured' (digested' ▸ rfl))
    have keys := CrawlItem.captureKey?_eq_iff digested digested'
    have lengths := CrawlItem.keyLength?_eq_iff laidOut laidOut'
    refine ⟨recorded, recorded', laidOut, laidOut', ?_, ?_, ?_⟩
    · simp [keys, lengths]
    · simp [keys, lengths]
    · simp [keys, lengths]
  · intro contributions history item byLength key shared fetched keyed
    have stems := shared.stems
    have matching (contribution : Contribution) (member : contribution ∈ contributions) :=
      contribution.key?_eq_iff (stems.settled contribution member) fetched.settled keyed
    have told (entry : CaptureEntry) (found : history.lookup? key = some entry)
        : ∃ contribution ∈ contributions,
            contribution.Matches byLength item ∧ contribution.IsToldBy entry := by
      obtain ⟨contribution, member, same, told⟩ := stems.origin key entry found
      exact ⟨contribution, member, (matching contribution member).mp same, told⟩
    refine ⟨⟨?_, ?_⟩, told⟩
    · intro known
      obtain ⟨entry, found⟩ := Option.isSome_iff_exists.mp known
      obtain ⟨contribution, member, same, -⟩ := told entry found
      exact ⟨contribution, member, same⟩
    · rintro ⟨contribution, member, same⟩
      exact stems.present contribution member key ((matching contribution member).mpr same)

/-- What was recorded by its length is found by a crawl that goes by length, from the history that
was kept, and not by one that does not, whose keys are others.
-/
theorem contentKeys_separate_manners
    : let url : Url :=
        ⟨"http", "", none, true, some (.domain "a"), none, .segments ["x"], none, none⟩
      let fetcher : Fetch.Fetcher :=
        ⟨{ Fetch.FetchConfig.standard with digestAlgorithm := .md5 }, .empty, ⟨[]⟩⟩
      let attempt : Option (Fetch.Execution Float) :=
        fetcher.execute? (.new url) .empty
          [⟨0, .response ⟨200, .http11, .empty⟩ [.chunk [1]]⟩] ⟨0, 0⟩ 0 none
      let item := (attempt.map (·.item)).getD (.new url)
      let contribution : Contribution := ⟨true, item, "urn:a", ⟨0, 0⟩⟩
      ∃ history key key',
        SharedHistory [contribution] history
        ∧ IsFetched item
        ∧ item.dedupKey? true = some key
        ∧ item.dedupKey? false = some key'
        ∧ item.captureKey? true ≠ item.captureKey? false
        ∧ (history.lookup? key).isSome
        ∧ history.lookup? key' = none := by
  intro url fetcher attempt item contribution
  obtain ⟨execution, executed⟩ := Option.isSome_iff_exists.mp
    (show attempt.isSome by decide +kernel)
  have attempted : Fetch.IsAttempted (.new url) item :=
    ⟨Float, inferInstance, _, _, _, _, _, _, execution, executed, by simp [item, executed]⟩
  have fetched : IsFetched item := ⟨_, item, attempted, .refl item⟩
  obtain ⟨key, keyed⟩ : ∃ key, item.dedupKey? true = some key :=
    Option.isSome_iff_exists.mp (by decide +kernel)
  obtain ⟨key', keyed'⟩ : ∃ key, item.dedupKey? false = some key :=
    Option.isSome_iff_exists.mp (by decide +kernel)
  have begun : contribution.capture.date = ⟨0, 0⟩ := by decide +kernel
  have dated : contribution.capture.date.IsCivil := begun ▸ ⟨by decide, .inl (by decide)⟩
  let history := (item.recordCapture true .empty "urn:a" ⟨0, 0⟩).2
  have recorded : SharedHistory [contribution] history :=
    SharedHistory.fresh.record contribution fetched dated
  have kept : history.persist .vacant = .ok (.file (Text.utf8 history.snapshot)) := rfl
  have shared : SharedHistory [contribution] history :=
    recorded.reload kept (CaptureHistory.load_of_persist recorded.stems.storable kept)
  obtain ⟨digest, digested⟩ : ∃ digest, item.digest = some digest :=
    Option.isSome_iff_exists.mp (by decide +kernel)
  obtain ⟨-, -, -, -, separate, tells⟩ := contentKeys_separate
  have measured := Fetch.isMeasured_new url
  obtain ⟨_, _, -, -, -, -, others⟩ :=
    separate _ _ item item digest digest attempted attempted measured measured digested digested
  have eligible : item.isEligible = true := (CrawlItem.dedupKey?_eq_some_iff.mp keyed).1
  obtain ⟨known, -⟩ := tells [contribution] history item true key shared fetched keyed
  obtain ⟨unknown, -⟩ := tells [contribution] history item false key' shared fetched keyed'
  refine ⟨history, key, key', shared, fetched, keyed, keyed', others, ?_, ?_⟩
  · exact known.mpr ⟨contribution, List.mem_singleton_self _, eligible, rfl, rfl, fun _ => rfl⟩
  · rw [← Option.not_isSome_iff_eq_none, unknown]
    rintro ⟨other, member, same⟩
    rw [List.mem_singleton.mp member] at same
    cases same.manner

end Archive

end WebHarvest
