import WebHarvest.Capture.History
import WebHarvest.Proofs.KeyedList

/-! What a history of captures tells about a key: setting one entry changes no other, and recording
counts up what is there.
-/

namespace WebHarvest.CaptureHistory

variable {history : CaptureHistory} {key other : CaptureKey} {entry : CaptureEntry}

/-- After an entry is set, its key has it and every other key has what it had before. -/
theorem lookup?_insert (history : CaptureHistory) (key other : CaptureKey) (entry : CaptureEntry)
    : (history.insert key entry).lookup? other
      = if other = key then some entry else history.lookup? other :=
  KeyedList.value?_set (put key entry) rfl (by simp [put]) (by simp +contextual [put])
    history.entries other

/-- Recording a capture counts up the entry of its key or makes the first one, and changes no other
key.
-/
theorem lookup?_record (history : CaptureHistory) (key other : CaptureKey) (capture : Capture)
    : (history.record key capture).2.lookup? other
      = if other = key then some (((history.lookup? key).map (·.again)).getD capture.first)
        else history.lookup? other := by
  rw [record, lookup?_insert]
  cases history.lookup? key <;> rfl

/-- A count that goes up is never the same again, even where it starts over. -/
theorem again_ne (entry : CaptureEntry) : entry.again ≠ entry := by
  intro same
  have count : (entry.seenCount + 1) % 18446744073709551616 = entry.seenCount :=
    congrArg CaptureEntry.seenCount same
  omega

/-- Recording a capture always changes the history. -/
theorem record_ne (history : CaptureHistory) (key : CaptureKey) (capture : Capture)
    : (history.record key capture).2 ≠ history := by
  intro same
  have found := lookup?_record history key key capture
  rw [same, if_pos rfl] at found
  cases known : history.lookup? key with
  | none => simp [known] at found
  | some entry =>
      rw [known] at found
      exact again_ne entry (Option.some.inj found).symm

/-- The keys of a history in their order. -/
def keys (history : CaptureHistory) : List CaptureKey :=
  history.entries.map (·.1)

/-- A key is there if it has an entry. -/
theorem mem_keys_iff : key ∈ history.keys ↔ (history.lookup? key).isSome := by
  simp [keys, lookup?, List.find?_isSome]

/-- Setting an entry adds its key at the end, unless it is there. -/
theorem keys_insert (history : CaptureHistory) (key : CaptureKey) (entry : CaptureEntry)
    : (history.insert key entry).keys
      = if key ∈ history.keys then history.keys else history.keys ++ [key] := by
  obtain ⟨entries⟩ := history
  simp only [insert, keys]
  induction entries with
  | nil => rfl
  | cons head rest ih =>
      obtain ⟨headKey, kept⟩ := head
      by_cases found : headKey = key
      · simp [put, found]
      · simp only [put, found, beq_iff_eq, if_false, List.map_cons, ih, List.mem_cons,
          Ne.symm found, false_or]
        by_cases present : key ∈ rest.map (·.1) <;> simp [present]

/-- Each key stays there once. -/
theorem nodup_keys_insert (unique : history.keys.Nodup) (key : CaptureKey) (entry : CaptureEntry)
    : (history.insert key entry).keys.Nodup := by
  rw [keys_insert]
  split
  · exact unique
  · rename_i absent
    refine List.nodup_append.mpr ⟨unique, by simp, ?_⟩
    rintro other member _ single rfl
    rw [List.mem_singleton.mp single] at member
    exact absent member

/-- Where each key is there once, the entries are those that are found. -/
theorem lookup?_of_mem (unique : history.keys.Nodup) (member : (key, entry) ∈ history.entries)
    : history.lookup? key = some entry := by
  obtain ⟨entries⟩ := history
  simp only [keys, lookup?] at *
  induction entries with
  | nil => cases member
  | cons head rest ih =>
      simp only [List.map_cons, List.nodup_cons] at unique
      rcases List.mem_cons.mp member with rfl | later
      · simp
      · have different : head.1 ≠ key := by
          rintro rfl
          exact unique.1 (List.mem_map.mpr ⟨_, later, rfl⟩)
        simpa [different] using ih unique.2 later

end WebHarvest.CaptureHistory
