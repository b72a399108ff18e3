import WebHarvest.Json.Basic
import WebHarvest.Text.Hex

/-! The compact text of a JSON value: no white space, members in their order, and escapes for the
quote, the backslash and the control characters below the space only. -/

namespace WebHarvest.Json

/-- A character of a string as it is written between the quotes. -/
def escapeChar (c : Char) : List Char :=
  if c == '"' then ['\\', '"']
  else if c == '\\' then ['\\', '\\']
  else if c.toNat == 0x08 then ['\\', 'b']
  else if c.toNat == 0x09 then ['\\', 't']
  else if c.toNat == 0x0a then ['\\', 'n']
  else if c.toNat == 0x0c then ['\\', 'f']
  else if c.toNat == 0x0d then ['\\', 'r']
  else if c.toNat < 0x20 then
    ['\\', 'u', '0', '0', Text.Hex.digit (c.toNat / 16), Text.Hex.digit (c.toNat % 16)]
  else [c]

/-- A string in quotes. -/
def quote (s : String) : List Char :=
  '"' :: s.toList.flatMap escapeChar ++ ['"']

/-- A number: a whole one in digits, any other by its digits and exponent. -/
def renderNumber : JsonNumber → List Char
  | .whole i => (toString i).toList
  | .scaled negative digits exponent =>
    (if negative then ['-'] else []) ++ (toString digits).toList
      ++ 'e' :: (toString exponent).toList

/-- A string or key; one without text is written empty. -/
def renderText (s : Option String) : List Char :=
  quote (s.getD "")

mutual

/-- The characters of a value's text. -/
def renderChars : Json → List Char
  | null => "null".toList
  | bool true => "true".toList
  | bool false => "false".toList
  | number n => renderNumber n
  | string s => renderText s
  | array items => '[' :: renderItems items ++ [']']
  | object members => '\x7b' :: renderMembers members ++ ['\x7d']

/-- Items with commas between them. -/
def renderItems : List Json → List Char
  | [] => []
  | [item] => renderChars item
  | item :: next :: rest => renderChars item ++ ',' :: renderItems (next :: rest)

/-- Members with commas between them. -/
def renderMembers : List (Option String × Json) → List Char
  | [] => []
  | [(key, value)] => renderText key ++ ':' :: renderChars value
  | (key, value) :: next :: rest =>
    renderText key ++ ':' :: renderChars value ++ ',' :: renderMembers (next :: rest)

end

/-- The text of a value. -/
def render (value : Json) : String :=
  String.ofList (renderChars value)

end WebHarvest.Json
