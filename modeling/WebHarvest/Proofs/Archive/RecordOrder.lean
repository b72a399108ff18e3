import Mathlib.Data.Finset.Card
import Mathlib.Data.List.Induction
import WebHarvest.Exchange.Record
import WebHarvest.Proofs.Archive.RecordLookup
import WebHarvest.Proofs.Json.Forms

/-! Records that were put in for roles one after the other. The roles stand in the order in which
they were first filled, each with the record that was put in for it last, and so do they in the JSON
form.
-/

namespace WebHarvest.Archive

/-- The names of roles tell them apart. -/
theorem RecordRole.text_injective : Function.Injective RecordRole.text := by
  intro role other same
  cases role <;> cases other <;> simp_all [RecordRole.text]

theorem NamedFields.isPlain_toJson (fields : NamedFields) : fields.toJson.IsPlain := by
  apply Json.isPlain_ofMembers
  intro member listed
  obtain ⟨entry, -, rfl⟩ := List.mem_map.mp listed
  exact .text _

theorem ArchiveRecord.isPlain_toJson (record : ArchiveRecord) : record.toJson.IsPlain := by
  apply Json.isPlain_ofMembers
  simp only [List.forall_mem_cons, List.not_mem_nil, false_implies, implies_true, and_true]
  exact ⟨.text _, .text _, .text _, .text _, .text _, .int _, .bool _,
    record.fields.isPlain_toJson⟩

namespace RecordSet

variable {records : RecordSet} {insertions : List (RecordRole × ArchiveRecord)}
  {role : RecordRole} {record : ArchiveRecord}

/-- The records that are left after records were put in for roles in order. -/
def ofList (insertions : List (RecordRole × ArchiveRecord)) : RecordSet :=
  insertions.foldl (fun records entry => records.insert entry.1 entry.2) empty

/-- A record was put in for a role, and none was after it. -/
def IsLatest (insertions : List (RecordRole × ArchiveRecord)) (role : RecordRole)
    (record : ArchiveRecord)
    : Prop :=
  ∃ earlier later, insertions = earlier ++ (role, record) :: later ∧ role ∉ later.map (·.1)

-----------------------------------------------------------------------------------------
-- What one more record changes
-----------------------------------------------------------------------------------------

/-- The latest record of a role is the one that was put in just now, or the latest one before if
that was for another role.
-/
theorem isLatest_concat {entry : RecordRole × ArchiveRecord}
    : IsLatest (insertions ++ [entry]) role record
      ↔ (role, record) = entry ∨ role ≠ entry.1 ∧ IsLatest insertions role record := by
  constructor
  · rintro ⟨earlier, later, same, absent⟩
    rcases List.eq_nil_or_concat' later with rfl | ⟨later, last, rfl⟩
    · have single := (List.append_inj' same rfl).2
      exact .inl (List.singleton_inj.mp single).symm
    · have whole : insertions ++ [entry] = (earlier ++ (role, record) :: later) ++ [last] := by
        rw [same, List.append_assoc, List.cons_append]
      obtain ⟨front, single⟩ := List.append_inj' whole rfl
      obtain rfl := List.singleton_inj.mp single
      rw [List.map_append, List.mem_append, not_or] at absent
      exact .inr ⟨by simpa using absent.2, earlier, later, front, absent.1⟩
  · rintro (rfl | ⟨different, earlier, later, rfl, absent⟩)
    · exact ⟨insertions, [], rfl, List.not_mem_nil⟩
    · refine ⟨earlier, later ++ [entry], by rw [List.append_assoc, List.cons_append], ?_⟩
      rw [List.map_append, List.mem_append, not_or]
      exact ⟨absent, by simpa using different⟩

/-- Records that reflect what was put in: each role that was filled is there once, in the order in
which the roles were first filled (`eraseDups` keeps the first of equal roles), with its latest
record.
-/
structure Reflects (records : RecordSet) (insertions : List (RecordRole × ArchiveRecord))
    : Prop where
  roles : records.entries.map (·.1) = (insertions.map (·.1)).eraseDups
  once : records.HasRolesOnce
  latest
    : ∀ role record, records.get? role = some record ↔ IsLatest insertions role record

theorem reflects_empty : empty.Reflects [] where
  roles := rfl
  once := hasRolesOnce_empty
  latest role record := by simp [get?, empty, IsLatest]

/-- One more record keeps the order of the roles, or adds its role at the end. -/
theorem Reflects.insert (reflects : records.Reflects insertions)
    (entry : RecordRole × ArchiveRecord)
    : (records.insert entry.1 entry.2).Reflects (insertions ++ [entry]) where
  roles := by
    change (put entry.1 entry.2 records.entries).map (·.1) = _
    rw [roles_put, reflects.roles, List.map_append, List.map_singleton, List.eraseDups_append]
    split
    · rename_i filled
      have known : [entry.1].removeAll (insertions.map (·.1)) = [] := by
        simpa [List.removeAll] using filled
      rw [known, List.eraseDups_nil, List.append_nil]
    · rename_i unfilled
      have fresh : [entry.1].removeAll (insertions.map (·.1)) = [entry.1] := by
        simpa [List.removeAll] using unfilled
      rw [fresh]
      rfl
  once := reflects.once.insert entry.1 entry.2
  latest role record := by
    rw [get?_insert, isLatest_concat, ← reflects.latest]
    obtain ⟨other, replaced⟩ := entry
    by_cases same : role = other <;> simp [same, eq_comm]

theorem reflects_ofList (insertions : List (RecordRole × ArchiveRecord))
    : (ofList insertions).Reflects insertions := by
  induction insertions using List.reverseRecOn with
  | nil => exact reflects_empty
  | append_singleton insertions entry ih =>
      rw [ofList, List.foldl_append]
      exact ih.insert entry

-----------------------------------------------------------------------------------------
-- What can be seen of the records
-----------------------------------------------------------------------------------------

/-- The size of records that reflect what was put in is the number of different roles. -/
theorem Reflects.size_eq (reflects : records.Reflects insertions)
    : records.size = (insertions.map (·.1)).toFinset.card := by
  have sameRoles : (records.entries.map (·.1)).toFinset = (insertions.map (·.1)).toFinset := by
    ext role
    rw [reflects.roles, List.mem_toFinset, List.mem_toFinset, List.mem_eraseDups]
  rw [← sameRoles, List.toFinset_card_of_nodup reflects.once, List.length_map]
  rfl

theorem isPlain_toJson (records : RecordSet) : records.toJson.IsPlain := by
  apply Json.isPlain_ofMembers
  intro member listed
  obtain ⟨entry, -, rfl⟩ := List.mem_map.mp listed
  exact entry.2.isPlain_toJson

/-- The JSON text of records is that of an object with a member for each entry, in their order. -/
theorem read?_render_toJson (records : RecordSet)
    : Json.read? records.toJson.render
      = some
          (.object (records.entries.map fun entry => (some entry.1.text, entry.2.toJson))) := by
  rw [records.isPlain_toJson.read?_render, toJson, Json.ofMembers, List.map_map]
  rfl

/-- Records that were put in for roles in order are an ordered map. Each role that was filled is
there once, where it was filled first, with the record that was put in for it last, and so it is
looked up; there are as many entries as different roles; and the JSON object has these entries in
this order, no two of them with one name.
-/
theorem ofList_keepsOrder (insertions : List (RecordRole × ArchiveRecord))
    : let records := ofList insertions
      (records.entries.map (·.1) = (insertions.map (·.1)).eraseDups ∧ records.HasRolesOnce)
      ∧ (∀ role record, (role, record) ∈ records.entries ↔ IsLatest insertions role record)
      ∧ (∀ role record, records.get? role = some record ↔ IsLatest insertions role record)
      ∧ (∀ role, records.get? role = none ↔ role ∉ insertions.map (·.1))
      ∧ records.size = (insertions.map (·.1)).toFinset.card
      ∧ Json.read? records.toJson.render
        = some (.object (records.entries.map fun entry => (some entry.1.text, entry.2.toJson)))
      ∧ (records.entries.map (·.1.text)).Nodup := by
  intro records
  have reflects := reflects_ofList insertions
  refine ⟨⟨reflects.roles, reflects.once⟩, ?_, reflects.latest, ?_, reflects.size_eq,
    read?_render_toJson records, ?_⟩
  · intro role record
    rw [← reflects.latest]
    exact (KeyedList.value?_eq_some_iff reflects.once).symm
  · intro role
    rw [← List.mem_eraseDups, ← reflects.roles]
    exact KeyedList.value?_eq_none_iff
  · have names
        : records.entries.map (·.1.text) = (records.entries.map (·.1)).map RecordRole.text := by
      rw [List.map_map]
      rfl
    rw [names]
    exact reflects.once.map RecordRole.text_injective

/-- A role that is filled again keeps its place before the others. -/
example (a b c : ArchiveRecord)
    : (ofList [(.principal, a), (.request, b), (.principal, c)]).entries
      = [(.principal, c), (.request, b)] :=
  rfl

end RecordSet

end WebHarvest.Archive
