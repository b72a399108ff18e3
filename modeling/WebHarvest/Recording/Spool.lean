import WebHarvest.Text.Utf8

/-! Where recorded bytes are kept: in memory, and in a file once they would fill more memory than
is allowed. -/

namespace WebHarvest.Recording

/-- Bytes that may be kept in memory. -/
def memoryLimit : Nat := 64 * 1024

/-- Recorded bytes, in memory or in a file with the position at which it is written next. -/
inductive Spool where
  | memory (bytes : Bytes)
  | file (bytes : Bytes) (position : Nat)
  deriving DecidableEq, Repr

namespace Spool

/-- Nothing recorded. -/
def empty : Spool := memory []

/-- All recorded bytes. -/
def bytes : Spool → Bytes
  | memory bytes => bytes
  | file bytes _ => bytes

/-- Writes bytes behind the ones in memory, or at the position of the file. -/
def write (new : Bytes) : Spool → Spool
  | memory bytes =>
    if bytes.length + new.length ≤ memoryLimit then memory (bytes ++ new)
    else file (bytes ++ new) (bytes.length + new.length)
  | file bytes position =>
    file (bytes.take position ++ new ++ bytes.drop (position + new.length))
      (position + new.length)

/-- Reads all bytes from the start; a file is left at its end. -/
def replay : Spool → Bytes × Spool
  | memory bytes => (bytes, memory bytes)
  | file bytes _ => (bytes, file bytes bytes.length)

end Spool

end WebHarvest.Recording
