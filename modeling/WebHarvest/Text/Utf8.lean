/-! Texts as byte sequences in UTF-8, and what can be read of a sequence that is not UTF-8
throughout. -/

namespace WebHarvest

/-- A sequence of bytes, as it is sent, recorded or hashed. -/
abbrev Bytes := List UInt8

namespace Text

/-- The bytes of a text in UTF-8. -/
def utf8 (s : String) : Bytes :=
  s.toUTF8.toList

/-- The text whose UTF-8 form is the given byte sequence, if there is one. -/
def ofUtf8? (bytes : Bytes) : Option String :=
  String.fromUTF8? ⟨bytes.toArray⟩

/-- What is read at one place of a byte sequence: a character, or none where a byte is part of no
character. -/
abbrev Glyph := Option Char

/-- The character that a byte sequence starts with, and the bytes after it. A character takes up to
four bytes. -/
def firstChar? (bytes : Bytes) : Option (Char × Bytes) :=
  [1, 2, 3, 4].findSome? fun size => do
    let s ← ofUtf8? (bytes.take size)
    let c ← s.toList.head?
    return (c, bytes.drop size)

/-- The characters of a byte sequence. Each step of at most `fuel` many takes a character or one
byte that is part of none. -/
def glyphsWithin : Nat → Bytes → List Glyph
  | 0, _ | _, [] => []
  | fuel + 1, byte :: rest =>
    match firstChar? (byte :: rest) with
    | some (c, rest) => some c :: glyphsWithin fuel rest
    | none => none :: glyphsWithin fuel rest

/-- The characters of a byte sequence in their order, with none for each byte that is part of no
character. -/
def glyphs (bytes : Bytes) : List Glyph :=
  glyphsWithin bytes.length bytes

end Text

end WebHarvest
