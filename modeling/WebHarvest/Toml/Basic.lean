import WebHarvest.Json.Convention

/-! Trees of TOML documents. A table remembers how it came about, since that decides what may still
be added to it. -/

namespace WebHarvest

/-- How a table came about: on the way to a table below it, by a dotted key, or by a header of its
own. -/
inductive TableOrigin where
  | passage
  | dotted
  | header
  deriving DecidableEq, Repr

/-- A TOML value. Nothing can be added to an inline table. The elements of an array of tables all
have headers. -/
inductive Toml where
  | text (s : String)
  | integer (i : Int)
  | decimal (n : JsonNumber)
  | infinite
  | bool (b : Bool)
  | moment (written : String)
  | array (items : List Toml)
  | inline (members : List (String × Toml))
  | table (origin : TableOrigin) (members : List (String × Toml))
  | tables (elements : List (List (String × Toml)))
  deriving Repr

namespace Toml

/-- The key under which a moment in time stands in a tree that knows no such values. -/
def momentKey : String := "$__toml_private_datetime"

mutual

/-- The JSON value with the same contents. A number that is not finite becomes one that is not
whole. -/
def toJson : Toml → Json
  | text s => .text s
  | integer i => .int i
  | decimal n => .number n
  | infinite => .number (.scaled false 5 (-1))
  | bool b => .bool b
  | moment written => .ofMembers [(momentKey, .text written)]
  | array items => .array (itemsToJson items)
  | inline members => .object (membersToJson members)
  | table _ members => .object (membersToJson members)
  | tables elements => .array (elementsToJson elements)

/-- `toJson` for all items. -/
def itemsToJson : List Toml → List Json
  | [] => []
  | item :: rest => item.toJson :: itemsToJson rest

/-- `toJson` for all members. -/
def membersToJson : List (String × Toml) → List (Option String × Json)
  | [] => []
  | (key, value) :: rest => (some key, value.toJson) :: membersToJson rest

/-- `toJson` for all elements. -/
def elementsToJson : List (List (String × Toml)) → List Json
  | [] => []
  | members :: rest => .object (membersToJson members) :: elementsToJson rest

end

/-- Whether a value carries nothing, as a table or an array without contents does. -/
def isUnit : Json → Bool
  | .array items => items.isEmpty
  | .object members => members.isEmpty
  | _ => false

/-- The conventions of TOML documents. Their texts and numbers were checked when they were read. -/
def convention : Json.Convention where
  isUnit := isUnit
  allowsSurplus := true
  keeps _ _ := true

end Toml

end WebHarvest
