import Mathlib.Data.List.Nodup
import WebHarvest.Proofs.Json.Fields
import WebHarvest.Proofs.Json.RoundTrip

/-! Forms of values: how they are written as JSON and read from it. A form keeps its values if each
one that can be held is read from what is written for it, and nothing else is ever read. Such forms
are put together from those of texts, numbers, lists and the fields of structures.
-/

namespace WebHarvest.Json

-----------------------------------------------------------------------------------------
-- Forms
-----------------------------------------------------------------------------------------

/-- A form of the values that can be held. Strings are escaped in texts, so that what is written is
read from its text as it is.
-/
structure IsForm {α : Type} (write : α → Json) (ofJson? : Json → Option α)
    (IsHeld : α → Prop)
    : Prop where
  plain : ∀ value, (write value).IsPlain
  back : ∀ value, IsHeld value → ofJson? (write value) = some value
  held : ∀ json value, ofJson? json = some value → IsHeld value

/-- A value as it is read from a text. -/
def ofText? {α : Type} (ofJson? : Json → Option α) (text : String) : Option α :=
  (read? text).bind ofJson?

/-- Texts keep the values that can be held: each one is read from the text that is written for it,
and whatever text a value is read from, the one written for it is read as the same value, for which
the same text is written again.
-/
structure KeepsTexts {α : Type} (write : α → Json) (ofJson? : Json → Option α)
    (IsHeld : α → Prop)
    : Prop where
  back : ∀ value, IsHeld value → ofText? ofJson? (write value).render = some value
  again
    : ∀ text value,
        ofText? ofJson? text = some value
        → ∃ same,
            ofText? ofJson? (write value).render = some same
            ∧ same = value
            ∧ (write same).render = (write value).render

section

variable {α : Type} {write : α → Json} {ofJson? : Json → Option α} {IsHeld : α → Prop}

/-- What is written in a form is read from its text, and what was read can be held. -/
theorem IsForm.keepsTexts (form : IsForm write ofJson? IsHeld)
    : KeepsTexts write ofJson? IsHeld := by
  have back (value : α) (isHeld : IsHeld value)
      : ofText? ofJson? (write value).render = some value := by
    rw [ofText?, (form.plain value).read?_render, Option.bind_some, form.back value isHeld]
  refine ⟨back, ?_⟩
  intro text value read
  obtain ⟨json, -, read⟩ := Option.bind_eq_some_iff.mp read
  exact ⟨value, back value (form.held json value read), rfl, rfl⟩

-----------------------------------------------------------------------------------------
-- Texts, numbers and lists
-----------------------------------------------------------------------------------------

theorem isForm_text : IsForm text text? fun _ => True where
  plain := .text
  back _ _ := rfl
  held _ _ _ := trivial

theorem isForm_bool : IsForm bool bool? fun _ => True where
  plain := .bool
  back _ _ := rfl
  held _ _ _ := trivial

/-- Numbers below a bound. -/
theorem isForm_nat (bound : Nat) : IsForm nat (natBelow? bound) (· < bound) where
  plain n := .int n
  back n small := natBelow?_nat small
  held json n read := by
    unfold natBelow? at read
    split at read
    · split at read
      · cases read
        omega
      · cases read
    · cases read

/-- Counts, which fit into sixty-four bits. -/
theorem isForm_count : IsForm nat count? (· < Nat.pow 2 64) :=
  isForm_nat _

/-- Numbers with a sign between two bounds. -/
theorem isForm_int (low high : Int)
    : IsForm int (intBetween? low high) fun i => low ≤ i ∧ i < high where
  plain := .int
  back i inRange := if_pos inRange
  held json i read := by
    unfold intBetween? at read
    split at read
    · split at read
      · rename_i inRange
        cases read
        exact inRange
      · cases read
    · cases read

/-- Lists of values that have a form. -/
theorem IsForm.list (form : IsForm write ofJson? IsHeld)
    : IsForm (fun values => array (values.map write)) (listOf? ofJson?)
        fun values => ∀ value ∈ values, IsHeld value where
  plain values := by
    apply IsPlain.array
    intro json member
    obtain ⟨value, -, rfl⟩ := List.mem_map.mp member
    exact form.plain value
  back values held := mapM_map fun value member => form.back value (held value member)
  held json values read := by
    cases json with
    | array items =>
        intro value member
        obtain ⟨item, -, read⟩ := exists_of_mem_mapM read value member
        exact form.held item value read
    | null | bool | number | string | object => cases read

/-- A value that is missing is written as null. -/
theorem IsForm.isPlain_orNull (form : IsForm write ofJson? IsHeld) (value : Option α)
    : (orNull write value).IsPlain := by
  cases value with
  | none => exact .null
  | some value => exact form.plain value

-----------------------------------------------------------------------------------------
-- The fields of structures
-----------------------------------------------------------------------------------------

/-- The members of an object with their names. -/
theorem isPlain_ofMembers {members : List (String × Json)}
    (plain : ∀ member ∈ members, member.2.IsPlain)
    : (ofMembers members).IsPlain := by
  apply IsPlain.object
  · intro member listed
    obtain ⟨named, -, rfl⟩ := List.mem_map.mp listed
    rfl
  · intro member listed
    obtain ⟨named, present, rfl⟩ := List.mem_map.mp listed
    exact plain named present

/-- The members that are asked for are found if no name occurs twice, by induction on them. -/
theorem namedFields?_map {names : List String} {members : List (String × Json)}
    (unique : (members.map (·.1)).Nodup) (asked : ∀ member ∈ members, member.1 ∈ names)
    : namedFields? names (members.map fun (key, value) => (some key, value)) = some members := by
  induction members with
  | nil => rfl
  | cons member rest ih =>
      obtain ⟨key, value⟩ := member
      rw [List.map_cons, List.nodup_cons] at unique
      obtain ⟨here, others⟩ := List.forall_mem_cons.mp asked
      have fresh : rest.any (·.1 == key) = false := by
        rw [List.any_eq_false]
        intro other listed same
        have same : other.1 = key := eq_of_beq same
        exact unique.1 (List.mem_map.mpr ⟨other, listed, same⟩)
      simp only [List.map_cons, namedFields?, ih unique.2 others, Option.bind_eq_bind,
        Option.bind_some, List.contains_iff_mem.mpr here, fresh]
      rfl

/-- Where the first step of reading gives a value, reading goes on with it. -/
theorem read_next {α β : Type} {first : Option α} {next : α → Option β} {found : α}
    {result : Option β} (read : first = some found) (rest : next found = result)
    : first >>= next = result := by
  rw [read]
  exact rest

/-- The fields of a structure are read from the object of its members, and reading goes on with
them.
-/
theorem read_fields {convention : Convention} {names : List String} {mayBeShort : Bool}
    {members : List (String × Json)} (unique : names.Nodup)
    (named : members.map (·.1) = names) {β : Type} {next : Fields → Option β}
    {result : Option β} (rest : next ⟨members⟩ = result)
    : fields? convention names mayBeShort (ofMembers members) >>= next = result := by
  subst named
  refine read_next ?_ rest
  rw [ofMembers, fields?, namedFields?_map unique fun member => List.mem_map_of_mem]
  rfl

namespace Fields

/-- The value of a field is that of the first one with its name. -/
@[simp]
theorem value?_cons (name other : String) (value : Json) (rest : List (String × Json))
    : value? ⟨(other, value) :: rest⟩ name
      = if other = name then some value else value? ⟨rest⟩ name := by
  unfold value?
  by_cases same : other = name <;> simp [same]

variable {fields : Fields} {name : String} {β : Type} {result : Option β}

/-- A field is read from what was written for it, and reading goes on with its value. -/
theorem read_required (form : IsForm write ofJson? IsHeld) (value : α)
    (found : fields.value? name = some (write value)) (held : IsHeld value)
    {next : α → Option β} (rest : next value = result)
    : fields.required name ofJson? >>= next = result := by
  refine read_next ?_ rest
  rw [required, found, Option.bind_some, form.back value held]

theorem read_orElse (form : IsForm write ofJson? IsHeld) {default : α} (value : α)
    (found : fields.value? name = some (write value)) (held : IsHeld value)
    {next : α → Option β} (rest : next value = result)
    : fields.orElse name default ofJson? >>= next = result := by
  refine read_next ?_ rest
  rw [orElse, found]
  exact form.back value held

/-- A field that may be null is read from what was written for it, if null is not read as a value.
-/
theorem read_optional (form : IsForm write ofJson? IsHeld) (nothing : ofJson? null = none)
    (value : Option α) (found : fields.value? name = some (orNull write value))
    (held : ∀ present ∈ value, IsHeld present)
    {next : Option α → Option β} (rest : next value = result)
    : fields.optional name ofJson? >>= next = result := by
  refine read_next ?_ rest
  rw [optional, found]
  cases value with
  | none => rfl
  | some present =>
      have back := form.back present (held present rfl)
      have written : write present ≠ null := by
        intro same
        rw [same, nothing] at back
        cases back
      rw [orNull]
      split
      · rename_i none
        cases none
      · rename_i same
        exact absurd (Option.some.inj same) written
      · rename_i json _ same
        rw [← Option.some.inj same, back]
        rfl

/-- The value of a field can be held if it was read. -/
theorem held_of_required (form : IsForm write ofJson? IsHeld) {value : α}
    (read : fields.required name ofJson? = some value)
    : IsHeld value := by
  obtain ⟨json, -, read⟩ := Option.bind_eq_some_iff.mp read
  exact form.held json value read

theorem held_of_orElse (form : IsForm write ofJson? IsHeld) {default value : α}
    (standard : IsHeld default) (read : fields.orElse name default ofJson? = some value)
    : IsHeld value := by
  unfold orElse at read
  split at read
  · cases read
    exact standard
  · exact form.held _ value read

theorem held_of_optional (form : IsForm write ofJson? IsHeld) {value : Option α}
    (read : fields.optional name ofJson? = some value)
    : ∀ present ∈ value, IsHeld present := by
  unfold optional at read
  split at read
  · cases read
    simp
  · cases read
    simp
  · obtain ⟨present, source, rfl⟩ := Option.map_eq_some_iff.mp read
    rintro other ⟨⟩
    exact form.held _ present source

end Fields

end

end WebHarvest.Json
