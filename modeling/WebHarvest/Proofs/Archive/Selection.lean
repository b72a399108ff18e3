import WebHarvest.Archive.Revisit
import WebHarvest.Proofs.Archive.RecordLookup
import WebHarvest.Proofs.Http.Fields

/-! Which items are revisits, and what selecting a revisit leaves on its item: one principal record
that tells why, beside all others. Selecting again changes nothing but that record's identifier.
-/

namespace WebHarvest.Archive

open Calendar (Timestamp)

-----------------------------------------------------------------------------------------
-- Labelled values that were set
-----------------------------------------------------------------------------------------

namespace NamedFields

/-- A value that is added at the end is found unless there is one with the label. -/
@[simp]
theorem get?_add (fields : NamedFields) (label value other : String)
    : (fields.add label value).get? other
      = (fields.get? other).or (if label = other then some value else none) := by
  unfold get? add
  rw [List.find?_append, Option.map_or, List.find?_singleton]
  by_cases same : label = other <;> simp [same]

/-- So is one that may be missing. -/
@[simp]
theorem get?_addSome (fields : NamedFields) (label other : String) (value : Option String)
    : (fields.addSome label value).get? other
      = (fields.get? other).or (if label = other then value else none) := by
  cases value with
  | none => simp [addSome]
  | some value => simp [addSome]

@[simp]
theorem get?_empty (label : String) : empty.get? label = none :=
  rfl

end NamedFields

-----------------------------------------------------------------------------------------
-- Which items are revisits
-----------------------------------------------------------------------------------------

theorem isNotModified_iff {status : FetchStatus}
    : status.isNotModified = true ↔ status = .http 304 := by
  unfold FetchStatus.isNotModified
  split
  · simp
  · rename_i different
    simpa using different

/-- The server's word comes first, then an earlier capture with a URL. -/
theorem revisitKind?_eq (item : CrawlItem)
    : revisitKind? item
      = if item.status = some (.http 304) then some (.notModified, none)
        else
          (item.earlierCapture.filter (·.url != "")).map fun entry =>
            (.identicalDigest, some entry) := by
  have changed : item.status.any (·.isNotModified) = true ↔ item.status = some (.http 304) := by
    cases item.status <;> simp [isNotModified_iff]
  unfold revisitKind?
  simp only [changed]
  split
  · rfl
  · cases item.earlierCapture with
    | none => rfl
    | some entry => by_cases empty : entry.url = "" <;> simp [empty, Option.filter_some]

theorem kind_eq_notModified_iff (item : CrawlItem)
    : (revisitKind? item).map (·.1) = some .notModified ↔ item.status = some (.http 304) := by
  rw [revisitKind?_eq]
  split
  · rename_i changed
    simp [changed]
  · rename_i changed
    simp [changed]

theorem kind_eq_identicalDigest_iff (item : CrawlItem)
    : (revisitKind? item).map (·.1) = some .identicalDigest
      ↔ item.status ≠ some (.http 304)
        ∧ ∃ entry, item.earlierCapture = some entry ∧ entry.url ≠ "" := by
  rw [revisitKind?_eq]
  split
  · rename_i changed
    simp [changed]
  · rename_i changed
    cases item.earlierCapture with
    | none => simp
    | some entry => by_cases empty : entry.url = "" <;> simp [changed, empty, Option.filter_some]

-----------------------------------------------------------------------------------------
-- What a revisit record tells
-----------------------------------------------------------------------------------------

/-- The item's response has a field of a name, and the first one is printable ASCII and tabs that
read as a text.
-/
def ReadsFirst (item : CrawlItem) (name text : String) : Prop :=
  ∃ response value others,
    item.response = some response
    ∧ response.headers.values name = value :: others
    ∧ (∀ b ∈ value, b = 9 ∨ 0x20 ≤ b ∧ b < 0x7f)
    ∧ Text.utf8 text = value

/-- A record that tells why an item that began at a moment is a revisit. One for the server's word
that nothing has changed has the validators that can be read of the response and refers to no
record; one for an earlier capture refers to that.
-/
structure IsRevisit (item : CrawlItem) (begun : Timestamp) (kind : RevisitKind)
    (record : ArchiveRecord)
    : Prop where
  type : record.type = .revisit
  enforced : record.enforceLength = true
  date : record.date = begun.warcDate
  profile : record.fields.get? "WARC-Profile" = some kind.profile
  unreferred
    : kind = .notModified
      → ∀ label ∈ ["WARC-Refers-To", "WARC-Refers-To-Target-URI", "WARC-Refers-To-Date"],
          record.fields.contains label = false
  validators
    : kind = .notModified
      → ∀ text,
          (record.fields.get? "WARC-Etag" = some text ↔ ReadsFirst item "etag" text)
          ∧ (record.fields.get? "WARC-Last-Modified" = some text
              ↔ ReadsFirst item "last-modified" text)
  references
    : kind = .identicalDigest
      → ∃ entry,
          item.earlierCapture = some entry
          ∧ record.fields.get? "WARC-Refers-To" = some ("<" ++ entry.recordId ++ ">")
          ∧ record.fields.get? "WARC-Refers-To-Target-URI" = some entry.url
          ∧ record.fields.get? "WARC-Refers-To-Date" = some entry.date.warcDate

/-- The text of the first field of a name is told if that can be read. -/
theorem first?_eq_some_iff {item : CrawlItem} {name text : String}
    : (item.response.bind fun response => response.headers.first? name) = some text
      ↔ ReadsFirst item name text := by
  constructor
  · intro told
    obtain ⟨response, answered, told⟩ := Option.bind_eq_some_iff.mp told
    obtain ⟨value, first, read⟩ := Option.bind_eq_some_iff.mp told
    obtain ⟨others, values⟩ := List.head?_eq_some_iff.mp first
    have same := (Http.headerValue?_of_readable read).1
    unfold Http.readable? at read
    split at read
    · rename_i printable
      exact ⟨response, value, others, answered, values, by simpa using printable, same⟩
    · cases read
  · rintro ⟨response, value, others, answered, values, printable, same⟩
    have readable : ∃ read, Http.readable? value = some read := by
      refine ⟨_, if_pos ?_⟩
      simpa using printable
    obtain ⟨read, reads⟩ := readable
    have told := (Http.headerValue?_of_readable reads).1
    obtain rfl : read = text := Text.utf8_injective (told.trans same.symm)
    simp [answered, Http.Headers.first?, values, reads]

/-- The record of a revisit tells what it should, by cases of the kind. -/
theorem isRevisit_recordOf {item : CrawlItem} {begun : Timestamp}
    (started : item.begun = some begun) {kind : RevisitKind} {entry : Option CaptureEntry}
    (revisit : revisitKind? item = some (kind, entry)) (wall : Timestamp) (id : String)
    : IsRevisit item begun kind (recordOf item wall id entry) := by
  rw [revisitKind?_eq] at revisit
  split at revisit
  · cases revisit
    exact {
      type := rfl
      enforced := rfl
      date := by simp [recordOf, notModifiedRecord, revisitRecord, started]
      profile := by simp [recordOf, notModifiedRecord, revisitRecord, notModifiedFields]
      unreferred := by
        intro _ label refers
        simp only [List.mem_cons, List.not_mem_nil, or_false] at refers
        rcases refers with rfl | rfl | rfl <;>
          simp [recordOf, notModifiedRecord, revisitRecord, notModifiedFields,
            NamedFields.contains]
      validators := by
        intro _ text
        rw [← first?_eq_some_iff, ← first?_eq_some_iff]
        simp [recordOf, notModifiedRecord, revisitRecord, notModifiedFields]
      references := by
        intro other
        cases other
    }
  · obtain ⟨earlier, stashed, same⟩ := Option.map_eq_some_iff.mp revisit
    cases same
    have known : item.earlierCapture = some earlier := Option.eq_some_of_filter_eq_some stashed
    exact {
      type := rfl
      enforced := rfl
      date := by simp [recordOf, identicalDigestRecord, revisitRecord, started]
      profile := rfl
      unreferred := by
        intro other
        cases other
      validators := by
        intro other
        cases other
      references := fun _ => ⟨earlier, known, rfl, rfl, rfl⟩
    }

/-- Of the record of an item that has begun, only the identifier depends on when and under which
identifier it is made, and nothing of it on the item's remarks and records.
-/
theorem recordOf_again {item : CrawlItem} {begun : Timestamp} (started : item.begun = some begun)
    (wall later : Timestamp) (id fresh : String) (entry : Option CaptureEntry)
    (annotations : List String) (records : RecordSet)
    : recordOf { item with annotations, records } later fresh entry
      = { recordOf item wall id entry with id := fresh } := by
  cases entry <;>
    simp [recordOf, notModifiedRecord, identicalDigestRecord, revisitRecord, started,
      notModifiedFields]

-----------------------------------------------------------------------------------------
-- Selecting
-----------------------------------------------------------------------------------------

/-- What selecting leaves on an item that is a revisit. -/
theorem selectRevisit_of_some {item : CrawlItem} {kind : RevisitKind}
    {entry : Option CaptureEntry} (revisit : revisitKind? item = some (kind, entry))
    (wall : Timestamp) (ids : IdSource)
    : selectRevisit item wall ids
      = (some kind,
          { item with
            annotations := item.annotations ++ [kind.remark]
            records := item.records.insert .principal (recordOf item wall ids.draw.1 entry) },
          ids.draw.2) := by
  simp only [selectRevisit, revisit]
  rfl

theorem selectRevisit_of_none {item : CrawlItem} (revisit : revisitKind? item = none)
    (wall : Timestamp) (ids : IdSource)
    : selectRevisit item wall ids = (none, item, ids) := by
  simp only [selectRevisit, revisit]

/-- Identifiers of a source that has gone on are new if no two have the same name. -/
theorem draw_ne_of_later {ids others : IdSource} (distinct : Function.Injective ids.name)
    (same : others.name = ids.name) (later : ids.draw.2.next ≤ others.next)
    : others.draw.1 ≠ ids.draw.1 := by
  intro again
  have drawn : others.name others.next = ids.name ids.next := again
  rw [same] at drawn
  have number := distinct drawn
  simp only [IdSource.draw] at later
  omega

/-- An item that has begun is a revisit because nothing has changed exactly if its status is 304,
and because of an earlier capture exactly if its status is another one and the entry that was found
for it has a URL; otherwise it is none, and is left as it is, with no identifier drawn. A revisit
has one principal record, which tells why, besides the records of other roles as they were.
Selecting again, whenever and with whatever identifiers, finds the same kind, and leaves the same
record but for a new identifier, and no more records.
-/
theorem selectRevisit_repeats (item : CrawlItem) {begun : Timestamp}
    (started : item.begun = some begun) (once : item.records.HasRolesOnce) (wall : Timestamp)
    (ids : IdSource)
    : let (found, after, left) := selectRevisit item wall ids
      (found = some .notModified ↔ item.status = some (.http 304))
      ∧ (found = some .identicalDigest
          ↔ item.status ≠ some (.http 304)
            ∧ ∃ entry, item.earlierCapture = some entry ∧ entry.url ≠ "")
      ∧ (found = none → after = item ∧ left = ids)
      ∧ ∀ kind,
          found = some kind
          → ∃ record,
              IsRevisit item begun kind record
              ∧ after.records.entries.filter (·.1 == .principal) = [(.principal, record)]
              ∧ after.records.entries.filter (·.1 != .principal)
                = item.records.entries.filter (·.1 != .principal)
              ∧ after
                = { item with
                    annotations := item.annotations ++ [kind.remark]
                    records := after.records }
              ∧ (record.id, left) = ids.draw
              ∧ ∀ (later : Timestamp) (others : IdSource),
                  let (again, last, _) := selectRevisit after later others
                  again = some kind
                  ∧ last.records.entries.filter (·.1 == .principal)
                    = [(.principal, { record with id := others.draw.1 })]
                  ∧ last.records.size = after.records.size
                  ∧ (Function.Injective ids.name
                      → others.name = ids.name
                      → left.next ≤ others.next
                      → others.draw.1 ≠ record.id) := by
  have notModified := kind_eq_notModified_iff item
  have identical := kind_eq_identicalDigest_iff item
  cases revisit : revisitKind? item with
  | none =>
      rw [revisit] at notModified identical
      rw [selectRevisit_of_none revisit]
      refine ⟨notModified, identical, fun _ => ⟨rfl, rfl⟩, ?_⟩
      intro kind found
      cases found
  | some found =>
      obtain ⟨kind, entry⟩ := found
      rw [revisit] at notModified identical
      rw [selectRevisit_of_some revisit]
      refine ⟨notModified, identical, ?_, ?_⟩
      · intro none
        cases none
      rintro _ ⟨⟩
      have id : (recordOf item wall ids.draw.1 entry).id = ids.draw.1 := by cases entry <;> rfl
      refine ⟨recordOf item wall ids.draw.1 entry, isRevisit_recordOf started revisit _ _,
        RecordSet.filter_put_self once, RecordSet.filter_put_others _ _ _, rfl, ?_, ?_⟩
      · rw [id]
      · intro later others
        have still
          : revisitKind?
              { item with
                annotations := item.annotations ++ [kind.remark]
                records := item.records.insert .principal (recordOf item wall ids.draw.1 entry) }
            = some (kind, entry) :=
          revisit
        rw [selectRevisit_of_some still, recordOf_again started wall later ids.draw.1]
        refine ⟨rfl, ?_, ?_, fun distinct same gone => ?_⟩
        · exact RecordSet.filter_put_self (once.insert _ _)
        · exact RecordSet.size_insert_insert item.records .principal _ _
        · rw [id]
          exact draw_ne_of_later distinct same gone

/-- A response that says that nothing has changed is told of as such though an earlier capture is
known, in the place of the principal record that was there and beside the record of the request,
and selected again it is told of under the next identifier.
-/
theorem selectRevisit_repeats_known
    : let url : Url :=
        ⟨"http", "", none, true, some (.domain "a"), none, .segments ["x"], none, none⟩
      let stale := identicalDigestRecord (.new url) ⟨"http://a/", ⟨0, 0⟩, "0", 1⟩ ⟨0, 0⟩ "0"
      let item : CrawlItem :=
        { CrawlItem.new url with
          status := some (.http 304)
          begun := some ⟨5, 0⟩
          response := some ⟨304, .ofList [("etag", [0x31])]⟩
          earlierCapture := some ⟨"http://a/", ⟨0, 0⟩, "0", 1⟩
          records := ⟨[(.principal, stale), (.request, { stale with type := .request })]⟩ }
      let ids : IdSource := ⟨fun n => String.ofList (List.replicate n '+'), 0⟩
      let (found, after, left) := selectRevisit item ⟨9, 0⟩ ids
      item.begun = some ⟨5, 0⟩
      ∧ item.records.HasRolesOnce
      ∧ found = some .notModified
      ∧ ∃ record,
          IsRevisit item ⟨5, 0⟩ .notModified record
          ∧ record.fields.get? "WARC-Etag" = some "1"
          ∧ after.records.entries.map (·.1) = [.principal, .request]
          ∧ let (again, last, _) := selectRevisit after ⟨10, 0⟩ left
            again = some .notModified
            ∧ last.records.entries.filter (·.1 == .principal)
              = [(.principal, { record with id := "+" })]
            ∧ last.records.size = 2
            ∧ record.id ≠ "+" := by
  intro url stale item ids
  have started : item.begun = some ⟨5, 0⟩ := rfl
  have once : item.records.HasRolesOnce := by decide
  obtain ⟨notModified, -, -, selected⟩ := selectRevisit_repeats item started once ⟨9, 0⟩ ids
  have found := notModified.mpr rfl
  obtain ⟨record, told, -, -, -, -, again⟩ := selected .notModified found
  obtain ⟨still, replaced, count, fresh⟩ := again ⟨10, 0⟩ ids.draw.2
  have distinct : Function.Injective ids.name := by
    intro n m same
    simpa [ids] using congrArg String.length same
  refine ⟨started, once, found, record, told, ?_, by decide, still, replaced, count, ?_⟩
  · refine ((told.validators rfl "1").1).mpr ⟨_, [0x31], [], rfl, rfl, by simp,
      Text.utf8_of_ascii (by simp)⟩
  · exact (fresh distinct rfl (Nat.le_refl _)).symm

end WebHarvest.Archive
