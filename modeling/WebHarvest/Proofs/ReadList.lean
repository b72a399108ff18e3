/-! Lists whose elements are read one after the other, where one that cannot be read spoils the
list.
-/

namespace WebHarvest

/-- A list is read back if each of its values is, by induction on the list. -/
theorem mapM_map {α β : Type} {write : α → β} {read : β → Option α} {values : List α}
    (readsBack : ∀ value ∈ values, read (write value) = some value)
    : (values.map write).mapM read = some values := by
  induction values with
  | nil => rfl
  | cons value rest ih =>
      obtain ⟨first, others⟩ := List.forall_mem_cons.mp readsBack
      rw [List.map_cons, List.mapM_cons, first, ih others]
      rfl

/-- Each value of a list that was read was read from one of the elements, by induction on them. -/
theorem exists_of_mem_mapM {α β : Type} {read : β → Option α} {elements : List β}
    {values : List α} (found : elements.mapM read = some values)
    : ∀ value ∈ values, ∃ element ∈ elements, read element = some value := by
  induction elements generalizing values with
  | nil =>
      cases found
      simp
  | cons element rest ih =>
      simp only [List.mapM_cons, Option.bind_eq_bind, Option.bind_eq_some_iff,
        Option.pure_def, Option.some.injEq] at found
      obtain ⟨first, here, others, later, rfl⟩ := found
      intro value member
      rcases List.mem_cons.mp member with rfl | among
      · exact ⟨element, List.mem_cons_self, here⟩
      · obtain ⟨other, listed, source⟩ := ih later value among
        exact ⟨other, List.mem_cons_of_mem _ listed, source⟩

/-- Where reading tells what was written, elements that are all read are written for their values,
by induction on the elements.
-/
theorem eq_map_of_mapM {α β : Type} {write : α → β} {read : β → Option α} {elements : List β}
    {values : List α} (found : elements.mapM read = some values)
    (undoes : ∀ element value, read element = some value → write value = element)
    : elements = values.map write := by
  induction elements generalizing values with
  | nil =>
      cases found
      rfl
  | cons element rest ih =>
      simp only [List.mapM_cons, Option.bind_eq_bind, Option.bind_eq_some_iff,
        Option.pure_def, Option.some.injEq] at found
      obtain ⟨first, here, others, later, rfl⟩ := found
      rw [List.map_cons, undoes element first here, ← ih later]

end WebHarvest
