import Mathlib.Data.List.Induction
import WebHarvest.Access.Challenge

/-! The realms that are challenged by a response: those of the readable values of the field. Each
realm has one challenge, the one that was set last.
-/

namespace WebHarvest.Access

/-- The realms of the challenges in a header field, one for each readable value. -/
def realmsOf (headers : Http.Headers) (name : String) : List String :=
  ((headers.values name).filterMap Http.readable?).map fun challenge => (realm? challenge).getD ""

namespace Challenges

/-- Where the challenge of a realm is replaced, its realm stays. -/
theorem fst_replaced (realm challenge : String) (entry : String × String)
    : (if entry.1 == realm then (realm, challenge) else entry).1 = entry.1 := by
  split
  · rename_i same
    exact (beq_iff_eq.mp same).symm
  · rfl

/-- Setting the challenge of a realm challenges that realm, and no other one anew. -/
theorem contains_insert (challenges : Challenges) (realm challenge other : String)
    : (challenges.insert realm challenge).contains other
      = (challenges.contains other || realm == other) := by
  unfold insert
  split
  · rename_i known
    have same : challenges.contains other = (challenges.contains other || realm == other) := by
      by_cases named : realm = other
      · simp [← named, known]
      · simp [named]
    rw [← same]
    simp only [contains, List.any_map, Function.comp_def, fst_replaced]
  · simp [contains]

theorem isEmpty_insert (challenges : Challenges) (realm challenge : String)
    : (challenges.insert realm challenge).isEmpty = false := by
  unfold insert
  split
  · rename_i known
    cases entries : challenges.entries with
    | nil => simp [contains, entries] at known
    | cons entry rest => simp [isEmpty]
  · simp [isEmpty]

/-- Challenges that are set in order are of the realms that are listed. -/
theorem contains_ofList (entries : List (String × String)) (realm : String)
    : (ofList entries).contains realm = (entries.map (·.1)).contains realm := by
  suffices general
      : ∀ challenges : Challenges,
          (entries.foldl (fun known entry => known.insert entry.1 entry.2) challenges).contains
            realm
          = (challenges.contains realm || (entries.map (·.1)).contains realm) by
    exact (general empty).trans (Bool.false_or _)
  induction entries with
  | nil => simp
  | cons entry rest ih =>
      intro challenges
      rw [List.foldl_cons, ih, contains_insert, Bool.or_assoc, List.map_cons, List.contains_cons,
        Bool.beq_comm]

theorem isEmpty_ofList (entries : List (String × String))
    : (ofList entries).isEmpty = entries.isEmpty := by
  suffices general
      : ∀ challenges : Challenges,
          (entries.foldl (fun known entry => known.insert entry.1 entry.2) challenges).isEmpty
          = (challenges.isEmpty && entries.isEmpty) by
    exact (general empty).trans (Bool.true_and _)
  induction entries with
  | nil => simp
  | cons entry rest ih =>
      intro challenges
      rw [List.foldl_cons, ih, isEmpty_insert]
      simp

theorem contains_ofHeaders (headers : Http.Headers) (name realm : String)
    : (ofHeaders headers name).contains realm = (realmsOf headers name).contains realm := by
  rw [ofHeaders, contains_ofList, List.map_map]
  rfl

/-- There is a challenge exactly if a value of the field is readable. -/
theorem isEmpty_ofHeaders (headers : Http.Headers) (name : String)
    : (ofHeaders headers name).isEmpty = (realmsOf headers name).isEmpty := by
  rw [ofHeaders, isEmpty_ofList, realmsOf, List.isEmpty_map, List.isEmpty_map]

theorem get?_eq_none_iff {challenges : Challenges} {realm : String}
    : challenges.get? realm = none ↔ challenges.contains realm = false := by
  simp [get?, contains]

/-- After the challenge of a realm is set, that realm has it and every other one has what it had. -/
theorem get?_insert (challenges : Challenges) (realm challenge other : String)
    : (challenges.insert realm challenge).get? other
      = if other = realm then some challenge else challenges.get? other := by
  unfold insert
  split
  · rename_i known
    cases found : challenges.entries.find? (·.1 == other) with
    | none =>
        have absent : challenges.get? other = none := by rw [get?, found, Option.map_none]
        have different : other ≠ realm := by
          rintro rfl
          simp [get?_eq_none_iff.mp absent] at known
        rw [if_neg different, absent]
        simp only [get?, List.find?_map, Function.comp_def, fst_replaced, found, Option.map_none]
    | some entry =>
        have same : entry.1 = other := by simpa using List.find?_some found
        simp only [get?, List.find?_map, Function.comp_def, fst_replaced, found, Option.map_some]
        by_cases named : other = realm <;> simp [same, named]
  · rename_i unknown
    by_cases named : other = realm
    · subst named
      have absent : challenges.entries.find? (·.1 == other) = none := by
        have none := get?_eq_none_iff.mpr (Bool.eq_false_iff.mpr unknown)
        rwa [get?, Option.map_eq_none_iff] at none
      simp [get?, List.find?_append, absent]
    · simp [get?, List.find?_append, named, Ne.symm named]

/-- Each realm stays there once. -/
theorem nodup_insert {challenges : Challenges} (unique : (challenges.entries.map (·.1)).Nodup)
    (realm challenge : String)
    : ((challenges.insert realm challenge).entries.map (·.1)).Nodup := by
  unfold insert
  split
  · simpa only [List.map_map, Function.comp_def, fst_replaced] using unique
  · rename_i unknown
    rw [List.map_append, List.nodup_append]
    refine ⟨unique, by simp, ?_⟩
    rintro other member _ single rfl
    obtain ⟨entry, listed, rfl⟩ := List.mem_map.mp member
    refine unknown (List.any_eq_true.mpr ⟨entry, listed, ?_⟩)
    simpa using single

theorem nodup_ofList (entries : List (String × String))
    : ((ofList entries).entries.map (·.1)).Nodup := by
  induction entries using List.reverseRecOn with
  | nil => exact List.nodup_nil
  | append_singleton entries entry ih =>
      rw [ofList, List.foldl_append]
      exact nodup_insert ih entry.1 entry.2

/-- Of challenges that are set in order the last one of each realm is kept, by induction from the
last one.
-/
theorem get?_ofList (entries : List (String × String)) (realm : String)
    : (ofList entries).get? realm
      = entries.reverse.findSome? fun entry => if realm = entry.1 then some entry.2 else none := by
  induction entries using List.reverseRecOn with
  | nil => rfl
  | append_singleton entries entry ih =>
      have set : ofList (entries ++ [entry]) = (ofList entries).insert entry.1 entry.2 := by
        rw [ofList, List.foldl_append]
        rfl
      rw [set, get?_insert, ih, List.reverse_append]
      by_cases named : realm = entry.1 <;> simp [named]

end Challenges

/-- A credential answers the challenges of a response if it is for all realms or for one of those.
-/
theorem Credential.answers_ofHeaders (credential : Credential) (headers : Http.Headers)
    (name : String)
    : credential.answers (.ofHeaders headers name)
      = credential.realm.all (realmsOf headers name).contains := by
  unfold answers
  congr 1
  funext realm
  exact Challenges.contains_ofHeaders headers name realm

end WebHarvest.Access
