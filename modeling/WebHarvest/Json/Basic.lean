/-! Trees of JSON values. A tree keeps what later readers may judge differently: repeated keys in
their order, numbers that are not whole by their decimal digits, and strings that name no text. -/

namespace WebHarvest

/-- A number: a whole number, or digits and a power of ten when a point, an exponent or the sign of
a negative zero takes it out of the whole numbers. -/
inductive JsonNumber where
  | whole (value : Int)
  | scaled (negative : Bool) (digits : Nat) (exponent : Int)
  deriving DecidableEq, Repr

/-- A JSON value. A string or key without text is one with an unpaired surrogate escape, or with a
byte that is part of no character. -/
inductive Json where
  | null
  | bool (value : Bool)
  | number (value : JsonNumber)
  | string (text : Option String)
  | array (items : List Json)
  | object (members : List (Option String × Json))
  deriving Repr

namespace Json

/-- A string that has a text. -/
def text (s : String) : Json :=
  string (some s)

/-- A natural number. -/
def nat (n : Nat) : Json :=
  number (.whole n)

/-- A whole number. -/
def int (i : Int) : Json :=
  number (.whole i)

/-- An object with the given members. -/
def ofMembers (members : List (String × Json)) : Json :=
  object (members.map fun (key, value) => (some key, value))

/-- A value, or null in its absence. -/
def orNull {α : Type} (write : α → Json) : Option α → Json
  | some a => write a
  | none => null

/-- The last member with a key, if the value is an object that has one. -/
def member? (key : String) : Json → Option Json
  | object members => (members.reverse.find? (·.1 == some key)).map (·.2)
  | _ => none

end Json

end WebHarvest
