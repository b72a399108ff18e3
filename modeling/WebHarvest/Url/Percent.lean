import WebHarvest.Text.Hex

/-! Percent-encoding: bytes written as a percent sign and two upper-case hexadecimal digits. Which
characters are written so depends on the part of the URL. -/

namespace WebHarvest.Url.Percent

/-- A percent sign and the two digits of a byte. -/
def escape (b : UInt8) : List Char :=
  '%' :: [b.toNat / 16, b.toNat % 16].map fun n => Text.upperAscii (Text.Hex.digit n)

/-- Characters that no part of a URL may hold: controls, and all beyond ASCII. -/
def isControl (c : Char) : Bool :=
  c.toNat < 0x20 || 0x7f ≤ c.toNat

/-- Characters escaped in a fragment. -/
def inFragment (c : Char) : Bool :=
  isControl c || c == ' ' || c == '"' || c == '<' || c == '>' || c.toNat == 0x60

/-- Characters escaped in a query, where a special scheme has one more. -/
def inQuery (special : Bool) (c : Char) : Bool :=
  isControl c || c == ' ' || c == '"' || c == '#' || c == '<' || c == '>'
    || (special && c == '\'')

/-- Characters escaped in a path. -/
def inPath (c : Char) : Bool :=
  inFragment c || c == '#' || c == '?' || c == '\x7b' || c == '\x7d'

/-- Characters escaped in a user name or password. -/
def inUserinfo (c : Char) : Bool :=
  inPath c || ['/', ':', ';', '=', '@', '[', '\\', ']', '^', '|'].contains c

/-- A text in which the characters of a set are replaced by their escaped bytes. -/
def encode (set : Char → Bool) (cs : List Char) : String :=
  String.ofList (cs.flatMap fun c =>
    if set c then (Text.utf8 (String.singleton c)).flatMap escape else [c])

/-- The bytes of a text, where a percent sign with two digits behind it stands for one byte. -/
def decode : List Char → Bytes
  | [] => []
  | '%' :: h :: l :: rest =>
    match Text.hexValue? h, Text.hexValue? l with
    | some high, some low => UInt8.ofNat (16 * high + low) :: decode rest
    | _, _ => 0x25 :: decode (h :: l :: rest)
  | c :: rest => Text.utf8 (String.singleton c) ++ decode rest

end WebHarvest.Url.Percent
