import WebHarvest.Capture.Storage
import WebHarvest.Proofs.Calendar.Rfc3339
import WebHarvest.Proofs.Capture.Lookup
import WebHarvest.Proofs.Json.Fields
import WebHarvest.Proofs.Json.RoundTrip

/-! Histories in files. A history is loaded from its snapshot as it was kept: its keys and texts in
any characters, its dates to the nanosecond and its counts.
-/

namespace WebHarvest

-----------------------------------------------------------------------------------------
-- Entries
-----------------------------------------------------------------------------------------

/-- An entry that can be kept: its date is an instant of civil time, and its count is in range. -/
structure CaptureEntry.IsStorable (entry : CaptureEntry) : Prop where
  dated : entry.date.IsCivil
  counted : entry.seenCount < countModulus

theorem CaptureEntry.isPlain_toJson (entry : CaptureEntry) : entry.toJson.IsPlain := by
  apply Json.IsPlain.object
  · simp
  · simp only [List.map_cons, List.map_nil, List.forall_mem_cons, List.not_mem_nil, false_implies,
      implies_true, and_true]
    exact ⟨.text _, .text _, .text _, .int _⟩

theorem Calendar.Timestamp.ofJson?_toJson {t : Timestamp} (civil : t.IsCivil)
    : ofJson? t.toJson = some t := by
  rw [ofJson?, toJson, Json.text, Json.text?, Option.bind_some, Rfc3339.read?_rfc3339 civil]

/-- An entry that can be kept is read from its JSON form. -/
theorem CaptureEntry.ofJson?_toJson {entry : CaptureEntry} (storable : entry.IsStorable)
    : ofJson? entry.toJson = some entry := by
  obtain ⟨url, date, recordId, seenCount⟩ := entry
  have dated : Calendar.Timestamp.ofJson? date.toJson = some date :=
    Calendar.Timestamp.ofJson?_toJson storable.dated
  have counted : Json.count? (.nat seenCount) = some seenCount := by
    rw [Json.count?]
    exact Json.natBelow?_nat storable.counted
  have fields
      : (toJson ⟨url, date, recordId, seenCount⟩).fields? Json.convention
          ["original_url", "original_date", "record_id", "seen_count"] false
        = some
            ⟨[("original_url", .text url), ("original_date", date.toJson),
              ("record_id", .text recordId), ("seen_count", .nat seenCount)]⟩ := by
    rfl
  rw [ofJson?, fields]
  simp [Json.Fields.required_cons, dated, counted]

-----------------------------------------------------------------------------------------
-- Histories
-----------------------------------------------------------------------------------------

namespace CaptureHistory

/-- A history that can be kept: each key is there once, and every entry can be kept. -/
structure IsStorable (history : CaptureHistory) : Prop where
  unique : history.keys.Nodup
  entries : ∀ key entry, history.lookup? key = some entry → entry.IsStorable

theorem isStorable_empty : empty.IsStorable where
  unique := List.nodup_nil
  entries key entry found := by cases found

/-- Recording keeps it so, by cases of whether the entry is the recorded one. -/
theorem IsStorable.record {history : CaptureHistory} (storable : history.IsStorable)
    (key : CaptureKey) {capture : Capture} (dated : capture.date.IsCivil)
    : (history.record key capture).2.IsStorable where
  unique := nodup_keys_insert storable.unique _ _
  entries := by
    intro other entry found
    rw [lookup?_record] at found
    split at found
    · cases known : history.lookup? key with
      | none =>
          rw [known] at found
          cases found
          exact ⟨dated, show 1 < countModulus by decide⟩
      | some earlier =>
          rw [known] at found
          cases found
          exact ⟨(storable.entries key earlier known).dated, Nat.mod_lt _ (by decide)⟩
    · exact storable.entries other entry found

theorem mem_of_lookup? {history : CaptureHistory} {key : CaptureKey} {entry : CaptureEntry}
    (found : history.lookup? key = some entry)
    : (key, entry) ∈ history.entries := by
  obtain ⟨⟨other, kept⟩, first, rfl⟩ := Option.map_eq_some_iff.mp found
  have same : other = key := by simpa using List.find?_some first
  exact same ▸ List.mem_of_find?_eq_some first

/-- The order of the entries has no part in what is told of a key. -/
theorem lookup?_of_perm {history listed : CaptureHistory} (unique : history.keys.Nodup)
    (same : listed.entries.Perm history.entries) (key : CaptureKey)
    : listed.lookup? key = history.lookup? key := by
  have uniqueListed : listed.keys.Nodup := (same.map _).nodup_iff.mpr unique
  cases known : history.lookup? key with
  | some entry => exact lookup?_of_mem uniqueListed (same.mem_iff.mpr (mem_of_lookup? known))
  | none =>
      cases found : listed.lookup? key with
      | none => rfl
      | some entry =>
          rw [lookup?_of_mem unique (same.mem_iff.mp (mem_of_lookup? found))] at known
          cases known

theorem IsStorable.of_perm {history listed : CaptureHistory} (storable : history.IsStorable)
    (same : listed.entries.Perm history.entries)
    : listed.IsStorable where
  unique := (same.map _).nodup_iff.mpr storable.unique
  entries key entry found :=
    storable.entries key entry (lookup?_of_perm storable.unique same key ▸ found)

/-- An entry is set at the end if its key is not there. -/
theorem put_of_absent {key : CaptureKey} {entries : List (CaptureKey × CaptureEntry)}
    (absent : key ∉ entries.map (·.1)) (entry : CaptureEntry)
    : put key entry entries = entries ++ [(key, entry)] := by
  induction entries with
  | nil => rfl
  | cons head rest ih =>
      obtain ⟨other, kept⟩ := head
      rw [List.map_cons, List.mem_cons, not_or] at absent
      obtain ⟨different, absent⟩ := absent
      simp [put, Ne.symm different, ih absent]

/-- Setting entries whose keys differ lists them in order, by induction on the entries to set. -/
theorem foldl_insert (entries before : List (CaptureKey × CaptureEntry))
    (unique : ((before ++ entries).map (·.1)).Nodup)
    : entries.foldl (fun history (key, entry) => history.insert key entry)
          (CaptureHistory.mk before)
      = ⟨before ++ entries⟩ := by
  induction entries generalizing before with
  | nil => rw [List.foldl_nil, List.append_nil]
  | cons head rest ih =>
      obtain ⟨key, entry⟩ := head
      have absent : key ∉ before.map (·.1) := by
        rw [List.map_append, List.nodup_append] at unique
        intro present
        exact unique.2.2 key present key List.mem_cons_self rfl
      have set : (CaptureHistory.mk before).insert key entry = ⟨before ++ [(key, entry)]⟩ :=
        congrArg CaptureHistory.mk (put_of_absent absent entry)
      rw [List.foldl_cons]
      dsimp only
      rw [set, ih (before ++ [(key, entry)]) (by simpa using unique), List.append_assoc]
      rfl

/-- The entries of a history make that history. -/
theorem ofList_entries {history : CaptureHistory} (unique : history.keys.Nodup)
    : ofList history.entries = history :=
  foldl_insert history.entries [] unique

theorem isPlain_toJson (history : CaptureHistory) : history.toJson.IsPlain := by
  apply Json.IsPlain.object
  · intro member listed
    obtain ⟨named, present, rfl⟩ := List.mem_map.mp listed
    rfl
  · intro member listed
    obtain ⟨named, present, rfl⟩ := List.mem_map.mp listed
    obtain ⟨⟨key, entry⟩, -, rfl⟩ := List.mem_map.mp present
    exact entry.isPlain_toJson

/-- A history that can be kept is read from its JSON form. -/
theorem ofJson?_toJson {history : CaptureHistory} (storable : history.IsStorable)
    : ofJson? history.toJson = some history := by
  rw [toJson, Json.ofMembers, ofJson?, List.map_map, mapM_map]
  · rw [Option.bind_eq_bind, Option.bind_some, ofList_entries storable.unique]
    rfl
  · intro member listed
    have storableEntry := storable.entries _ _ (lookup?_of_mem storable.unique listed)
    have read := CaptureEntry.ofJson?_toJson storableEntry
    simp [read]

/-- A history that can be kept is read from its snapshot. -/
theorem ofSnapshot?_snapshot {history : CaptureHistory} (storable : history.IsStorable)
    : ofSnapshot? (Text.utf8 history.snapshot) = some history := by
  rw [ofSnapshot?, snapshot, history.isPlain_toJson.readBytes?_render, Option.bind_some,
    ofJson?_toJson storable]

/-- Where a history was kept it is loaded from. -/
theorem load_of_persist {history : CaptureHistory} (storable : history.IsStorable)
    {place after : Place} (kept : history.persist place = .ok after)
    : load after = .ok history := by
  unfold persist at kept
  split at kept
  · cases kept
  · cases kept
  · cases kept
    rw [load, ofSnapshot?_snapshot storable]
  · cases kept
    rw [load, ofSnapshot?_snapshot storable]

end CaptureHistory

end WebHarvest
