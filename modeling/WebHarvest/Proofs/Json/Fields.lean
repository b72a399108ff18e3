import WebHarvest.Json.Fields
import WebHarvest.Proofs.ReadList

/-! Values that are read from their JSON forms: texts, numbers in range, and the fields of a
structure one after the other.
-/

namespace WebHarvest.Json

@[simp]
theorem text?_text (s : String) : (text s).text? = some s :=
  rfl

/-- A number below the bound is read from its JSON form. -/
theorem natBelow?_nat {bound n : Nat} (small : n < bound) : natBelow? bound (nat n) = some n := by
  have inRange : 0 ≤ (n : Int) ∧ (n : Int) < bound :=
    ⟨Int.natCast_nonneg n, Int.ofNat_lt.mpr small⟩
  rw [nat, natBelow?, if_pos inRange]
  rfl

/-- A field is the first one if it has that name, else it is among the others. -/
theorem Fields.required_cons {α : Type} (name other : String) (value : Json)
    (rest : List (String × Json)) (read : Json → Option α)
    : required ⟨(other, value) :: rest⟩ name read
      = if other = name then read value else required ⟨rest⟩ name read := by
  unfold required value?
  by_cases same : other = name <;> simp [same]

end WebHarvest.Json
