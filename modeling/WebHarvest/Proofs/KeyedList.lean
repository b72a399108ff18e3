/-! Lists of values by keys, in which a key has the value that comes first. Setting or changing the
value of a key has no part in those of other keys.
-/

namespace WebHarvest.KeyedList

variable {κ β : Type} [DecidableEq κ]

/-- The value of a key. -/
def value? (entries : List (κ × β)) (key : κ) : Option β :=
  (entries.find? (·.1 == key)).map (·.2)

/-- Whatever changes the value of a key in its place, and adds a fresh one at the end where the
key has none, leaves every other key what it had, by induction on the entries.
-/
theorem value?_alter (alter : List (κ × β) → List (κ × β)) {key : κ} {fresh : β}
    {change : β → β} (added : alter [] = [(key, fresh)])
    (changed : ∀ kept rest, alter ((key, kept) :: rest) = (key, change kept) :: rest)
    (passed : ∀ head rest, head.1 ≠ key → alter (head :: rest) = head :: alter rest)
    (entries : List (κ × β)) (other : κ)
    : value? (alter entries) other
      = if other = key then some (((value? entries key).map change).getD fresh)
        else value? entries other := by
  unfold value?
  induction entries with
  | nil =>
      rw [added]
      by_cases same : other = key <;> simp [same, Ne.symm]
  | cons head rest ih =>
      obtain ⟨headKey, kept⟩ := head
      by_cases found : headKey = key
      · subst found
        rw [changed]
        by_cases same : headKey = other
        · simp [same]
        · simp [same, Ne.symm same]
      · rw [passed _ _ found]
        by_cases same : headKey = other
        · subst same
          simp [found]
        · simpa [found, same] using ih

/-- Whatever sets the value of a key gives it that value and leaves every other key what it had. -/
theorem value?_set (set : List (κ × β) → List (κ × β)) {key : κ} {value : β}
    (added : set [] = [(key, value)])
    (changed : ∀ kept rest, set ((key, kept) :: rest) = (key, value) :: rest)
    (passed : ∀ head rest, head.1 ≠ key → set (head :: rest) = head :: set rest)
    (entries : List (κ × β)) (other : κ)
    : value? (set entries) other = if other = key then some value else value? entries other := by
  have setAll : ∀ kept rest, set ((key, kept) :: rest) = (key, (fun _ => value) kept) :: rest :=
    changed
  have altered := value?_alter set added setAll passed entries other
  cases known : value? entries key <;> simpa [known] using altered

/-- A key has no value if it is not there. -/
theorem value?_eq_none_iff {entries : List (κ × β)} {key : κ}
    : value? entries key = none ↔ key ∉ entries.map (·.1) := by
  rw [value?, Option.map_eq_none_iff, List.find?_eq_none, List.mem_map, not_exists]
  simp

/-- Where each key is there once, it has the value that stands with it. -/
theorem value?_eq_some_iff {entries : List (κ × β)} (unique : (entries.map (·.1)).Nodup) {key : κ}
    {value : β}
    : value? entries key = some value ↔ (key, value) ∈ entries := by
  induction entries with
  | nil => simp [value?]
  | cons head rest ih =>
      obtain ⟨headKey, kept⟩ := head
      rw [List.map_cons, List.nodup_cons] at unique
      obtain ⟨absent, unique⟩ := unique
      rw [List.mem_cons, ← ih unique]
      by_cases found : headKey = key
      · subst found
        have others : value? rest headKey = none := value?_eq_none_iff.mpr absent
        rw [others]
        simp [value?, eq_comm]
      · simp [value?, found, Ne.symm found]

end WebHarvest.KeyedList
