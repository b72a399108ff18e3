import WebHarvest.Json.Convention

/-! Reading structures from JSON values: the fields of a structure by their names, from an object or
from an array that lists them in order, and the values that fields usually hold. -/

namespace WebHarvest

namespace Json

/-- The text of a string. -/
def text? : Json → Option String
  | string s => s
  | _ => none

/-- The value of a boolean. -/
def bool? : Json → Option Bool
  | bool b => some b
  | _ => none

/-- A whole number from zero on that is below a bound. -/
def natBelow? (bound : Nat) : Json → Option Nat
  | number (.whole i) => if 0 ≤ i ∧ i < bound then some i.toNat else none
  | _ => none

/-- A count, which fits into sixty-four bits. -/
def count? : Json → Option Nat :=
  natBelow? (Nat.pow 2 64)

/-- A whole number from `low` on that is below `high`. -/
def intBetween? (low high : Int) : Json → Option Int
  | number (.whole i) => if low ≤ i ∧ i < high then some i else none
  | _ => none

/-- The items of an array, each read in the same way. -/
def listOf? {α : Type} (read : Json → Option α) : Json → Option (List α)
  | array items => items.mapM read
  | _ => none

/-- The fields of a structure that were found, each at most once. -/
structure Fields where
  found : List (String × Json)

/-- The members of an object that have one of the given names. A key without text or a name that
occurs twice spoils the object; other members are passed over. -/
def namedFields? (names : List String) : List (Option String × Json)
    → Option (List (String × Json))
  | [] => some []
  | (none, _) :: _ => none
  | (some key, value) :: rest => do
    let found ← namedFields? names rest
    if !names.contains key then some found
    else if found.any (·.1 == key) then none
    else some ((key, value) :: found)

/-- The fields with the given names: of an object, or of an array with a value for each name. An
array may end early if `mayBeShort` holds, and go on if the convention allows it. -/
def fields? (convention : Convention) (names : List String) (mayBeShort : Bool)
    : Json → Option Fields
  | object members => (namedFields? names members).map Fields.mk
  | array items =>
    if (mayBeShort || names.length ≤ items.length)
        && (convention.allowsSurplus || items.length ≤ names.length) then
      some ⟨names.zip items⟩
    else none
  | _ => none

namespace Fields

/-- The value of a field. -/
def value? (fields : Fields) (name : String) : Option Json :=
  (fields.found.find? (·.1 == name)).map (·.2)

/-- A field that has to be there. -/
def required {α : Type} (fields : Fields) (name : String) (read : Json → Option α) : Option α :=
  (fields.value? name).bind read

/-- A field that may be missing or null. -/
def optional {α : Type} (fields : Fields) (name : String) (read : Json → Option α)
    : Option (Option α) :=
  match fields.value? name with
  | none | some null => some none
  | some value => (read value).map some

/-- A field with a value of its own when it is missing. -/
def orElse {α : Type} (fields : Fields) (name : String) (default : α) (read : Json → Option α)
    : Option α :=
  match fields.value? name with
  | none => some default
  | some value => read value

end Fields

end Json

end WebHarvest
