import WebHarvest.Text.Ascii
import WebHarvest.Text.Utf8

/-! Header fields: names without regard to case, values of bytes, and the collection of a message's
fields, in which the values of one name stand together. -/

namespace WebHarvest.Http

/-- The characters of names and other tokens. -/
def isTokenChar (c : Char) : Bool :=
  Text.isAsciiLetter c || Text.isAsciiDigit c
    || ['!', '#', '$', '%', '&', '\'', '*', '+', '-', '.', '^', '_', '|', '~'].contains c
    || c.toNat == 0x60

/-- A non-empty text of token characters. -/
def isToken (text : String) : Bool :=
  !text.isEmpty && text.toList.all isTokenChar

/-- The longest name that is accepted. -/
def maxNameLength : Nat := 65535

/-- The name that a text stands for, in lower case. -/
def headerName? (text : String) : Option String :=
  if isToken text && text.length ≤ maxNameLength then some (Text.lowerString text) else none

/-- The bytes of values: no controls but the tab. -/
def isValueByte (b : UInt8) : Bool :=
  b == 9 || (0x20 ≤ b && b != 0x7f)

/-- A value that may stand in a message. -/
def isValue (value : Bytes) : Bool :=
  value.all isValueByte

/-- The value that a text stands for. -/
def headerValue? (text : String) : Option Bytes :=
  let value := Text.utf8 text
  if isValue value then some value else none

/-- The text of a value that holds printable ASCII and tabs only. -/
def readable? (value : Bytes) : Option String :=
  if value.all fun b => b == 9 || (0x20 ≤ b && b < 0x7f) then
    some (String.ofList (value.map fun b => Char.ofNat b.toNat))
  else none

/-- The header fields of a message: each name once, at the place of its first field, with its values
in order. -/
structure Headers where
  groups : List (String × List Bytes)
  deriving DecidableEq, Repr

namespace Headers

/-- No field. -/
def empty : Headers := ⟨[]⟩

instance : Inhabited Headers := ⟨empty⟩

/-- Adds a field behind those of its name. -/
def appendTo (name : String) (value : Bytes)
    : List (String × List Bytes) → List (String × List Bytes)
  | [] => [(name, [value])]
  | (other, values) :: rest =>
    if other == name then (other, values ++ [value]) :: rest
    else (other, values) :: appendTo name value rest

/-- Adds a field. -/
def append (headers : Headers) (name : String) (value : Bytes) : Headers :=
  ⟨appendTo name value headers.groups⟩

/-- Puts one value in the place of all values of a name. -/
def insertIn (name : String) (value : Bytes)
    : List (String × List Bytes) → List (String × List Bytes)
  | [] => [(name, [value])]
  | (other, values) :: rest =>
    if other == name then (other, [value]) :: rest
    else (other, values) :: insertIn name value rest

/-- Sets a name to one value. -/
def insert (headers : Headers) (name : String) (value : Bytes) : Headers :=
  ⟨insertIn name value headers.groups⟩

/-- The values of a name in order. -/
def values (headers : Headers) (name : String) : List Bytes :=
  ((headers.groups.find? (·.1 == name)).map (·.2)).getD []

/-- A name that has a value. -/
def contains (headers : Headers) (name : String) : Bool :=
  headers.groups.any (·.1 == name)

/-- The text of a name's first value, if that is readable. -/
def first? (headers : Headers) (name : String) : Option String :=
  (headers.values name).head?.bind readable?

/-- All fields in order. -/
def toList (headers : Headers) : List (String × Bytes) :=
  headers.groups.flatMap fun (name, values) => values.map (name, ·)

/-- The fields added in order. -/
def ofList (fields : List (String × Bytes)) : Headers :=
  fields.foldl (fun headers (name, value) => headers.append name value) empty

end Headers

end WebHarvest.Http
