import WebHarvest.Json.Basic

/-! The values that can be kept before it is known what they are for. A number is kept in double
precision, as the product of its leading digits and a power of ten; one that is too large for that
cannot be kept. -/

namespace WebHarvest

namespace JsonNumber

/-- The longest run of leading digits of a number that fits into sixty-four bits, and the number of
digits after it. -/
def leadingDigits (n : Nat) : Nat × Nat :=
  if n < Nat.pow 2 64 then (n, 0)
  else
    let (leading, dropped) := leadingDigits (n / 10)
    (leading, dropped + 1)
termination_by n
decreasing_by
  have positive : 0 < Nat.pow 2 64 := Nat.pow_pos (by decide)
  omega

/-- A natural number in double precision: the nearest one with fifty-three binary digits before its
zeros, a half to the even neighbour. -/
def toDouble (n : Nat) : Nat :=
  let unit := Nat.pow 2 (n.log2 - 52)
  let kept := n / unit
  let part := 2 * (n % unit)
  if unit < part || (part == unit && kept % 2 == 1) then (kept + 1) * unit else kept * unit

/-- Numbers from here on are rounded beyond the greatest double: half-way between it and the next
power of two. -/
def doubleBound : Nat := Nat.pow 2 1024 - Nat.pow 2 970

/-- The greatest power of ten below that bound. -/
def greatestExponent : Nat := 308

/-- Whether digits with an exponent stay in range: leading digits and power of ten are each taken in
double precision, and so is their product. -/
def areInRange (digits : Nat) (exponent : Int) : Bool :=
  let (leading, dropped) := leadingDigits digits
  let exponent := exponent + dropped
  leading == 0 || exponent < 0
    || (exponent ≤ greatestExponent
      && toDouble leading * toDouble (Nat.pow 10 exponent.toNat) < doubleBound)

/-- Whether a number can be kept in double precision. -/
def isInRange : JsonNumber → Bool
  | whole value => areInRange value.natAbs 0
  | scaled _ digits exponent => areInRange digits exponent

end JsonNumber

namespace Json

/-- How deep arrays and objects may be nested in a text, as far as they are not passed over. -/
def depthLimit : Nat := 127

mutual

/-- Whether a value can be kept: every string and key has a text, every number is in range, and
arrays and objects are nested at most `room` deep. -/
def isKeepable (room : Nat) : Json → Bool
  | string s => s.isSome
  | number n => n.isInRange
  | array items => 0 < room && areKeepable (room - 1) items
  | object members => 0 < room && areMembersKeepable (room - 1) members
  | _ => true

/-- `isKeepable` for all items. -/
def areKeepable (room : Nat) : List Json → Bool
  | [] => true
  | item :: rest => item.isKeepable room && areKeepable room rest

/-- `isKeepable` for all members. -/
def areMembersKeepable (room : Nat) : List (Option String × Json) → Bool
  | [] => true
  | (key, value) :: rest => key.isSome && value.isKeepable room && areMembersKeepable room rest

end

end Json

end WebHarvest
