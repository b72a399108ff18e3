import WebHarvest.Text.Utf8

/-! What a path of the file system leads to, as far as reading and replacing a file depend on it. -/

namespace WebHarvest

/-- A file with its bytes, a directory, nothing in a directory that is there, or nothing because
even the directory is missing. -/
inductive Place where
  | file (bytes : Bytes)
  | directory
  | vacant
  | unreachable
  deriving DecidableEq, Repr

/-- The bytes of a file. -/
def Place.read? : Place → Option Bytes
  | file bytes => some bytes
  | _ => none

end WebHarvest
