import Mathlib.Data.List.Nodup
import WebHarvest.Proofs.Archive.Crew
import WebHarvest.Proofs.Archive.Decision
import WebHarvest.Proofs.Capture.Lookup

/-! What every step of a crew keeps: the history tells of the responses that were attached, and each
worker that has looked knows of those that were attached before.
-/

namespace WebHarvest.Archive

open Calendar (Timestamp)

-----------------------------------------------------------------------------------------
-- The entry of a key
-----------------------------------------------------------------------------------------

/-- The entry that all attachments under one key make: it tells of the first one and counts all. -/
def entryOf : List Attachment → Option CaptureEntry
  | [] => none
  | first :: rest =>
    some ⟨first.record.url, first.begun, first.record.id, (rest.length + 1) % countModulus⟩

/-- What was attached under a key. -/
def attachedUnder (key : CaptureKey) (attached : List Attachment) : List Attachment :=
  attached.filter (·.key = key)

/-- One more attachment counts the entry up, or makes it. -/
theorem entryOf_concat (attached : List Attachment) (last : Attachment)
    : entryOf (attached ++ [last])
      = some (((entryOf attached).map (·.again)).getD
          ⟨last.record.url, last.begun, last.record.id, 1⟩) := by
  cases attached with
  | nil => rfl
  | cons first rest =>
      simp [entryOf, CaptureEntry.again]

/-- An entry is that of the first attachment. -/
theorem entryOf_eq_some {attached : List Attachment} {entry : CaptureEntry}
    (made : entryOf attached = some entry)
    : ∃ first rest,
        attached = first :: rest
        ∧ entry.url = first.record.url
        ∧ entry.date = first.begun
        ∧ entry.recordId = first.record.id
        ∧ entry.seenCount = (rest.length + 1) % countModulus := by
  cases attached with
  | nil => cases made
  | cons first rest =>
      cases made
      exact ⟨first, rest, rfl, rfl, rfl, rfl, rfl⟩

/-- An attachment under a key comes last under it, and changes nothing under other keys. -/
theorem attachedUnder_concat (key : CaptureKey) (attached : List Attachment) (last : Attachment)
    : attachedUnder key (attached ++ [last])
      = attachedUnder key attached ++ if last.key = key then [last] else [] := by
  by_cases same : last.key = key <;> simp [attachedUnder, same]

/-- The first attachment under a key stays the first one when more is attached. -/
theorem attachedUnder_of_isPrefix {key : CaptureKey} {attached more : List Attachment}
    {first : Attachment} {rest : List Attachment} (earlier : attached <+: more)
    (under : attachedUnder key attached = first :: rest)
    : ∃ later, attachedUnder key more = first :: later := by
  obtain ⟨added, rfl⟩ := earlier
  refine ⟨rest ++ attachedUnder key added, ?_⟩
  rw [attachedUnder, List.filter_append, ← attachedUnder, under]
  rfl

-----------------------------------------------------------------------------------------
-- What every step keeps
-----------------------------------------------------------------------------------------

variable {policy : Policy} {crew : Crew} {attached : List Attachment}

/-- An item refers to an attachment: it has the same key, and its principal record is a revisit with
the identifier, the URL and the date of the attached response.
-/
structure Attachment.IsReferredTo (attachment : Attachment) (policy : Policy) (item : CrawlItem)
    (revisit : ArchiveRecord)
    : Prop where
  key : item.dedupKey? policy.keyByLength = some attachment.key
  principal : item.records.principal? = some revisit
  refers : revisit.RefersTo attachment.record.id attachment.record.url attachment.begun

/-- An attachment is that of a worker's item: it tells of the item's key, its principal record, its
URL and its beginning.
-/
structure Attachment.IsOf (attachment : Attachment) (policy : Policy) (worker : Nat)
    (item : CrawlItem)
    : Prop where
  worker : attachment.worker = worker
  key : item.dedupKey? policy.keyByLength = some attachment.key
  principal : item.records.principal? = some attachment.record
  url : attachment.record.url = item.url.text
  begun : item.begun = some attachment.begun

/-- An item was fetched, and has no earlier capture unless it takes part in deduplication. -/
structure IsUnlooked (policy : Policy) (item : CrawlItem) : Prop where
  begun : item.begun.isSome
  earlierCapture : item.dedupKey? policy.keyByLength = none → item.earlierCapture = none

/-- What a worker has looked up is what had been attached when it looked, and what it refers to was
among that. A response that takes part in deduplication is attached.
-/
def Worker.IsConsistent (policy : Policy) (attached : List Attachment) (number : Nat)
    : Worker → Prop
  | .holding item => IsUnlooked policy item
  | .consulted item earlier =>
    item.begun.isSome
    ∧ earlier <+: attached
    ∧ item.earlierCapture
      = (item.dedupKey? policy.keyByLength).bind fun key => entryOf (attachedUnder key earlier)
  | .finished decision item earlier =>
    IsUnlooked policy item
    ∧ earlier <+: attached
    ∧ (decision = .revisit .identicalDigest
        → ∃ attachment ∈ earlier, ∃ revisit, attachment.IsReferredTo policy item revisit)
    ∧ (decision = .response
        → (item.dedupKey? policy.keyByLength).isSome
        → ∃ attachment ∈ attached, attachment.IsOf policy number item)

/-- What is attached later makes no difference to a worker. -/
theorem Worker.IsConsistent.mono {worker : Worker} {number : Nat}
    (consistent : worker.IsConsistent policy attached number) {more : List Attachment}
    (earlier : attached <+: more)
    : worker.IsConsistent policy more number := by
  cases worker with
  | holding item => exact consistent
  | consulted item before =>
      obtain ⟨begun, known, lookedUp⟩ := consistent
      exact ⟨begun, known.trans earlier, lookedUp⟩
  | finished decision item before =>
      obtain ⟨unlooked, known, refers, attaches⟩ := consistent
      refine ⟨unlooked, known.trans earlier, refers, ?_⟩
      intro response keyed
      obtain ⟨attachment, present, own⟩ := attaches response keyed
      exact ⟨attachment, earlier.subset present, own⟩

/-- The history tells of the attachments, these are responses with identifiers of their own, and all
workers are consistent with them.
-/
structure Crew.IsConsistent (crew : Crew) (policy : Policy) : Prop where
  stored
    : ∀ key, crew.archiving.history.lookup? key = entryOf (attachedUnder key crew.attached)
  responses
    : ∀ attachment ∈ crew.attached,
        attachment.record.type = .response
        ∧ attachment.record.date = attachment.begun.warcDate
  injective : Function.Injective crew.archiving.ids.name
  drawn
    : ∀ attachment ∈ crew.attached,
        ∃ number < crew.archiving.ids.next,
          attachment.record.id = crew.archiving.ids.name number
  distinct : (crew.attached.map (·.record.id)).Nodup
  workers : ∀ number, (crew.workers number).IsConsistent policy crew.attached number

namespace Crew

theorem isConsistent_start {items : Nat → CrawlItem} {ids : IdSource}
    (distinct : Function.Injective ids.name)
    (begun : ∀ worker, (items worker).begun.isSome)
    (unlooked
      : ∀ worker,
          (items worker).dedupKey? policy.keyByLength = none
          → (items worker).earlierCapture = none)
    : (start items ids).IsConsistent policy where
  stored _ := rfl
  responses _ member := by cases member
  injective := distinct
  drawn _ member := by cases member
  distinct := List.nodup_nil
  workers number := ⟨begun number, unlooked number⟩

namespace IsConsistent

/-- A worker that is consistent may take the place of another one. -/
theorem advance (consistent : crew.IsConsistent policy) (number : Nat) (worker : Worker)
    (next : worker.IsConsistent policy crew.attached number)
    : (crew.advance number worker).IsConsistent policy := by
  refine ⟨consistent.stored, consistent.responses, consistent.injective, consistent.drawn,
    consistent.distinct, ?_⟩
  intro other
  by_cases same : other = number
  · subst same
    simpa [Crew.advance] using next
  · simpa [Crew.advance, same] using consistent.workers other

/-- Identifiers may be drawn for other records. -/
theorem draw (consistent : crew.IsConsistent policy) {ids : IdSource}
    (drawn : crew.archiving.ids.DrawnFrom ids)
    : ({ crew with archiving := { crew.archiving with ids } } : Crew).IsConsistent policy where
  stored := consistent.stored
  responses := consistent.responses
  injective := drawn.name ▸ consistent.injective
  drawn attachment member := by
    obtain ⟨number, earlier, named⟩ := consistent.drawn attachment member
    exact ⟨number, Nat.lt_trans earlier drawn.drawn, drawn.name ▸ named⟩
  distinct := consistent.distinct
  workers := consistent.workers

/-- A response with the next identifier is attached, and recorded as a capture. -/
theorem attach (consistent : crew.IsConsistent policy) {item : CrawlItem} {key : CaptureKey}
    {begun : Timestamp} (wall : Timestamp) (worker : Nat) (known : item.begun = some begun)
    {ids : IdSource} (drawn : crew.archiving.ids.DrawnFrom ids)
    : let id := crew.archiving.ids.first
      ({ crew with
          archiving :=
            { history := (crew.archiving.history.record key (item.capture id wall)).2, ids }
          attached :=
            crew.attached ++ [⟨worker, key, responseRecord item wall id, begun⟩] }
        : Crew).IsConsistent policy := by
  intro id
  have entry : item.capture id wall = ⟨item.url.text, begun, id⟩ := by
    simp [CrawlItem.capture, known]
  refine ⟨?_, ?_, drawn.name ▸ consistent.injective, ?_, ?_, ?_⟩
  · intro other
    rw [CaptureHistory.lookup?_record, attachedUnder_concat, consistent.stored]
    by_cases same : other = key
    · subst same
      rw [if_pos rfl, if_pos rfl, entryOf_concat, entry]
      rfl
    · rw [if_neg same, if_neg (Ne.symm same), List.append_nil, consistent.stored]
  · intro attachment member
    rcases List.mem_append.mp member with earlier | last
    · exact consistent.responses attachment earlier
    · rw [List.mem_singleton.mp last]
      exact ⟨rfl, by simp [responseRecord, known]⟩
  · intro attachment member
    rcases List.mem_append.mp member with earlier | last
    · obtain ⟨number, before, named⟩ := consistent.drawn attachment earlier
      exact ⟨number, Nat.lt_trans before drawn.drawn, drawn.name ▸ named⟩
    · rw [List.mem_singleton.mp last]
      exact ⟨crew.archiving.ids.next, drawn.drawn, drawn.name ▸ rfl⟩
  · rw [List.map_append]
    refine List.nodup_append.mpr ⟨consistent.distinct, List.nodup_singleton _, ?_⟩
    rintro earlier member last single rfl
    obtain ⟨attachment, attachedBefore, rfl⟩ := List.mem_map.mp member
    obtain ⟨number, before, named⟩ := consistent.drawn attachment attachedBefore
    -- The new identifier has the next number, and all others have smaller ones.
    have same : crew.archiving.ids.name number = crew.archiving.ids.name crew.archiving.ids.next :=
      named.symm.trans (List.mem_singleton.mp single)
    exact absurd (consistent.injective same) (Nat.ne_of_lt before)
  · intro number
    exact (consistent.workers number).mono (List.prefix_append _ _)

/-- A worker looks for an earlier capture, or skips its item. -/
theorem consult (consistent : crew.IsConsistent policy) (number : Nat)
    : (crew.step policy (.consult number)).IsConsistent policy := by
  have worker := consistent.workers number
  cases held : crew.workers number with
  | consulted item earlier =>
      simpa only [Crew.step, held] using consistent
  | finished decision item earlier =>
      simpa only [Crew.step, held] using consistent
  | holding item =>
      rw [held] at worker
      simp only [Crew.step, held]
      split
      · have kept := archivedFrom_loadEarlier policy.keyByLength crew.archiving.history item
        refine consistent.advance number (.consulted _ _)
          ⟨kept.begun ▸ worker.begun, List.prefix_rfl, ?_⟩
        rw [kept.dedupKey?]
        cases keyed : item.dedupKey? policy.keyByLength with
        | none =>
            rw [loadEarlier_of_keyless keyed]
            exact worker.earlierCapture keyed
        | some key =>
            rw [earlierCapture_loadEarlier keyed]
            exact consistent.stored key
      · exact consistent.advance number (.finished _ _ _)
          ⟨worker, List.prefix_rfl, (fun revisit => by cases revisit),
            (fun response => by cases response)⟩

/-- A worker whose item is new attaches its response, if it takes part in deduplication. -/
theorem conclude_of_new (consistent : crew.IsConsistent policy) {number : Nat} (wall : Timestamp)
    {item : CrawlItem} {earlier : List Attachment}
    (held : crew.workers number = .consulted item earlier) (unlooked : IsUnlooked policy item)
    (before : earlier <+: crew.attached) (new : revisitKind? item = none)
    : (crew.step policy (.conclude number wall)).IsConsistent policy := by
  obtain ⟨records, ids, concluded, principal, drawn⟩ :=
    Archive.conclude_of_new policy wall crew.archiving new
  obtain ⟨begun, known⟩ := Option.isSome_iff_exists.mp unlooked.begun
  have next : IsUnlooked policy { item with records } :=
    ⟨unlooked.begun, unlooked.earlierCapture⟩
  simp only [Crew.step, held, concluded]
  cases keyed : item.dedupKey? policy.keyByLength with
  | none =>
      have attaches : attachment? policy number item { item with records } .response = none := by
        simp [attachment?, keyed]
      simp only [attaches, CrawlItem.recordCapture, keyed, Option.toList_none, List.append_nil]
      refine (consistent.draw drawn).advance number (.finished _ _ _)
        ⟨next, before, (fun revisit => by cases revisit), ?_⟩
      intro _ present
      have keyless : CrawlItem.dedupKey? policy.keyByLength { item with records } = none := keyed
      rw [keyless] at present
      cases present
  | some key =>
      have attaches
          : attachment? policy number item { item with records } .response
            = some
                ⟨number, key, responseRecord item wall crew.archiving.ids.first, begun⟩ := by
        simp [attachment?, keyed, principal, known]
      simp only [attaches, CrawlItem.recordCapture, keyed]
      refine (consistent.attach wall number known drawn).advance number (.finished _ _ _)
        ⟨next, before.trans (List.prefix_append _ _),
          (fun revisit => by cases revisit), ?_⟩
      intro _ _
      refine ⟨_, List.mem_append_right _ (List.mem_singleton.mpr rfl), ?_⟩
      exact {
        worker := rfl
        key := keyed
        principal := principal
        url := rfl
        begun := known
      }

/-- A worker whose item is a revisit attaches nothing. If the revisit is because of an identical
digest, its item was looked up, and refers to the first attachment that was there.
-/
theorem conclude_of_revisit (consistent : crew.IsConsistent policy) {number : Nat}
    (wall : Timestamp) {item : CrawlItem} {earlier : List Attachment}
    (held : crew.workers number = .consulted item earlier) (unlooked : IsUnlooked policy item)
    (before : earlier <+: crew.attached)
    (lookedUp
      : item.earlierCapture
        = (item.dedupKey? policy.keyByLength).bind fun key =>
            entryOf (attachedUnder key earlier))
    {kind : RevisitKind} {entry : Option CaptureEntry}
    (revisit : revisitKind? item = some (kind, entry))
    : (crew.step policy (.conclude number wall)).IsConsistent policy := by
  obtain ⟨records, ids, concluded, principal, drawn⟩ :=
    Archive.conclude_of_revisit policy wall crew.archiving revisit
  have kept := archivedFrom_annotate item kind records
  have next : IsUnlooked policy { item.annotate kind.remark with records } := by
    refine ⟨kept.begun ▸ unlooked.begun, fun keyless => unlooked.earlierCapture ?_⟩
    rw [← kept.dedupKey?]
    exact keyless
  simp only [Crew.step, held, concluded, attachment?, reduceCtorEq, if_false,
    Option.toList_none, List.append_nil]
  refine (consistent.draw drawn).advance number (.finished _ _ _)
    ⟨next, before, ?_, (fun response => by cases response)⟩
  intro identical
  obtain rfl : kind = .identicalDigest := by
    injection identical
  obtain ⟨capture, rfl, found⟩ := earlierCapture_of_identicalDigest revisit
  rw [found] at lookedUp
  obtain ⟨key, keyed, made⟩ := Option.bind_eq_some_iff.mp lookedUp.symm
  obtain ⟨first, rest, under, url, date, recordId, -⟩ := entryOf_eq_some made
  have member : first ∈ attachedUnder key earlier := by
    simp [under]
  obtain ⟨present, sameKey⟩ := List.mem_filter.mp member
  have refers := refersTo_identicalDigestRecord item capture wall crew.archiving.ids.first
  rw [recordId, url, date] at refers
  refine ⟨first, present, _, ?_, principal, refers⟩
  rw [kept.dedupKey?, keyed, of_decide_eq_true sameKey]

/-- A worker concludes, by whether its item is a revisit. -/
theorem conclude (consistent : crew.IsConsistent policy) (number : Nat) (wall : Timestamp)
    : (crew.step policy (.conclude number wall)).IsConsistent policy := by
  have worker := consistent.workers number
  cases held : crew.workers number with
  | holding item =>
      simpa only [Crew.step, held] using consistent
  | finished decision item earlier =>
      simpa only [Crew.step, held] using consistent
  | consulted item earlier =>
      rw [held] at worker
      obtain ⟨begun, before, lookedUp⟩ := worker
      have unlooked : IsUnlooked policy item := by
        refine ⟨begun, fun keyless => ?_⟩
        rw [lookedUp, keyless]
        rfl
      cases revisit : revisitKind? item with
      | none => exact consistent.conclude_of_new wall held unlooked before revisit
      | some kindAndEntry =>
          exact consistent.conclude_of_revisit wall held unlooked before lookedUp revisit

/-- A worker takes its item up once more. -/
theorem resume (consistent : crew.IsConsistent policy) (number : Nat)
    : (crew.step policy (.resume number)).IsConsistent policy := by
  have worker := consistent.workers number
  cases held : crew.workers number with
  | holding item =>
      simpa only [Crew.step, held] using consistent
  | consulted item earlier =>
      simpa only [Crew.step, held] using consistent
  | finished decision item earlier =>
      rw [held] at worker
      simp only [Crew.step, held]
      exact consistent.advance number (.holding _) worker.1

/-- Every step keeps the crew consistent. -/
theorem step (consistent : crew.IsConsistent policy) (next : CrewStep)
    : (crew.step policy next).IsConsistent policy := by
  cases next with
  | consult number => exact consistent.consult number
  | conclude number wall => exact consistent.conclude number wall
  | resume number => exact consistent.resume number

/-- And so do all steps in any order, by induction on them. -/
theorem run (consistent : crew.IsConsistent policy) (steps : List CrewStep)
    : (crew.run policy steps).IsConsistent policy := by
  induction steps generalizing crew with
  | nil => exact consistent
  | cons next steps ih => exact ih (consistent.step next)

end IsConsistent

end Crew

end WebHarvest.Archive
