import WebHarvest.Archive.Identifier
import WebHarvest.Digest.Content

/-! Identifiers that look random: names of the form `urn:uuid:`, drawn from a seed. -/

namespace WebHarvest.Archive

/-- Sixteen bytes with the marks of a random identifier: its version and its variant. -/
def withMarks (bytes : Bytes) : Bytes :=
  bytes.mapIdx fun i b =>
    if i == 6 then b % 16 + 0x40 else if i == 8 then b % 64 + 0x80 else b

/-- Hexadecimal digits in groups with hyphens between them. -/
def grouped (digits : List Char) : List Char :=
  List.intercalate ['-']
    [digits.take 8, (digits.drop 8).take 4, (digits.drop 12).take 4, (digits.drop 16).take 4,
     digits.drop 20]

/-- The name of sixteen bytes. -/
def uuidName (bytes : Bytes) : String :=
  "urn:uuid:" ++ String.ofList (grouped (Text.Hex.encode (withMarks bytes)).toList)

/-- Identifiers from a seed. -/
def IdSource.ofSeed (seed : String) : IdSource where
  name n := uuidName (DigestAlgorithm.md5.digest (Text.utf8 (seed ++ ":" ++ toString n))).value
  next := 0

end WebHarvest.Archive
