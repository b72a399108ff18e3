import WebHarvest.Json.Range

/-! What may differ between the formats from which trees of values are read. -/

namespace WebHarvest

namespace Json

/-- The conventions of a format. `isUnit` tells what carries nothing. Where `allowsSurplus` holds,
an array that lists the fields of a structure may go on after the last one. `keeps` tells whether a
value at a level of nesting can be kept before it is known what it is for; the outermost level is
zero. -/
structure Convention where
  isUnit : Json → Bool
  allowsSurplus : Bool
  keeps : Nat → Json → Bool

/-- Null carries nothing. -/
def isNull : Json → Bool
  | null => true
  | _ => false

/-- The conventions of JSON texts. -/
def convention : Convention where
  isUnit := isNull
  allowsSurplus := false
  keeps level := isKeepable (depthLimit - level)

/-- The name of a choice without contents: a string, or an object whose only member has it as its
key and carries nothing. -/
def choice? (convention : Convention) : Json → Option String
  | string s => s
  | object [(key, value)] => if convention.isUnit value then key else none
  | _ => none

end Json

end WebHarvest
