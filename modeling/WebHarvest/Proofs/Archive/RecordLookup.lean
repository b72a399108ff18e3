import Mathlib.Data.List.Nodup
import WebHarvest.Archive.Record
import WebHarvest.Proofs.KeyedList

/-! The record of a role after the records of roles were set, and which roles are filled then: a
role that is set keeps its place, or is added at the end.
-/

namespace WebHarvest.Archive.RecordSet

-----------------------------------------------------------------------------------------
-- The record of a role
-----------------------------------------------------------------------------------------

/-- After a record is set, its role has it and every other role has what it had before. -/
theorem get?_insert (records : RecordSet) (role other : RecordRole) (record : ArchiveRecord)
    : (records.insert role record).get? other
      = if other = role then some record else records.get? other :=
  KeyedList.value?_set (put role record) rfl (by simp [put]) (by simp +contextual [put])
    records.entries other

@[simp]
theorem principal?_insert_principal (records : RecordSet) (record : ArchiveRecord)
    : (records.insert .principal record).principal? = some record := by
  rw [principal?, get?_insert, if_pos rfl]

@[simp]
theorem principal?_insert_request (records : RecordSet) (record : ArchiveRecord)
    : (records.insert .request record).principal? = records.principal? := by
  rw [principal?, get?_insert, if_neg (by decide), principal?]

-----------------------------------------------------------------------------------------
-- The roles that are filled
-----------------------------------------------------------------------------------------

/-- Each role is filled once, which every set of inserted records keeps. -/
def HasRolesOnce (records : RecordSet) : Prop :=
  (records.entries.map (·.1)).Nodup

instance (records : RecordSet) : Decidable records.HasRolesOnce :=
  inferInstanceAs (Decidable (List.Nodup _))

variable {role : RecordRole} {record other : ArchiveRecord}
  {entries : List (RecordRole × ArchiveRecord)}

/-- Setting a role has no part in the others, by induction on the entries. -/
theorem filter_put_others (role : RecordRole) (record : ArchiveRecord)
    (entries : List (RecordRole × ArchiveRecord))
    : (put role record entries).filter (·.1 != role) = entries.filter (·.1 != role) := by
  induction entries with
  | nil => simp [put]
  | cons head rest ih =>
      obtain ⟨headRole, kept⟩ := head
      by_cases same : headRole = role
      · simp [put, same]
      · simp [put, same, ih]

/-- A role that was set has one entry, by induction on the entries. -/
theorem filter_put_self (once : (entries.map (·.1)).Nodup)
    : (put role record entries).filter (·.1 == role) = [(role, record)] := by
  induction entries with
  | nil => simp [put]
  | cons head rest ih =>
      obtain ⟨headRole, kept⟩ := head
      obtain ⟨fresh, once⟩ := List.nodup_cons.mp once
      by_cases same : headRole = role
      · subst same
        have absent : rest.filter (·.1 == headRole) = [] := by
          rw [List.filter_eq_nil_iff]
          intro entry member named
          exact fresh (List.mem_map.mpr ⟨entry, member, beq_iff_eq.mp named⟩)
        simp [put, absent]
      · simpa [put, same] using ih once

/-- Of two records that were set for a role the later one is left. -/
theorem put_put (role : RecordRole) (record other : ArchiveRecord)
    (entries : List (RecordRole × ArchiveRecord))
    : put role other (put role record entries) = put role other entries := by
  induction entries with
  | nil => simp [put]
  | cons head rest ih =>
      obtain ⟨headRole, kept⟩ := head
      by_cases same : headRole = role
      · simp [put, same]
      · simp [put, same, ih]

/-- A role that is set is filled in its place, or at the end if it was not filled, by induction on
the entries.
-/
theorem roles_put (role : RecordRole) (record : ArchiveRecord)
    (entries : List (RecordRole × ArchiveRecord))
    : (put role record entries).map (·.1)
      = if role ∈ entries.map (·.1) then entries.map (·.1) else entries.map (·.1) ++ [role] := by
  induction entries with
  | nil => simp [put]
  | cons head rest ih =>
      obtain ⟨headRole, kept⟩ := head
      by_cases same : headRole = role
      · simp [put, same]
      · rw [List.map_cons, put, if_neg (by simpa using same), List.map_cons, ih]
        by_cases filled : role ∈ rest.map (·.1) <;> simp [filled, Ne.symm same]

/-- A role that is set again has no more records than before. -/
theorem size_insert_insert (records : RecordSet) (role : RecordRole)
    (record other : ArchiveRecord)
    : ((records.insert role record).insert role other).size
      = (records.insert role record).size := by
  have roles
    : (put role other records.entries).map (·.1) = (put role record records.entries).map (·.1) := by
    rw [roles_put, roles_put]
  have count := congrArg List.length roles
  rw [List.length_map, List.length_map] at count
  unfold size insert
  rw [put_put]
  exact count

theorem hasRolesOnce_empty : empty.HasRolesOnce :=
  List.nodup_nil

theorem HasRolesOnce.insert {records : RecordSet} (once : records.HasRolesOnce)
    (role : RecordRole) (record : ArchiveRecord)
    : (records.insert role record).HasRolesOnce := by
  unfold HasRolesOnce RecordSet.insert
  rw [roles_put]
  split
  · exact once
  · rename_i absent
    rw [← List.concat_eq_append]
    exact once.concat absent

end WebHarvest.Archive.RecordSet
