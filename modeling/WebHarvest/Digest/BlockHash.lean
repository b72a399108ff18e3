import WebHarvest.Digest.Word

/-! Digest functions built from a compression of sixty-four byte blocks, in two forms: all at once
over a padded message, and running over bytes as they arrive. -/

namespace WebHarvest.Digest

/-- Bytes in a block. -/
def blockSize : Nat := 64

/-- A compression function with its start value, the way it writes a message's length in bits, and
the way it writes its result. -/
structure BlockHash where
  State : Type
  start : State
  compress : State → Bytes → State
  lengthBytes : Nat → Bytes
  output : State → Bytes

namespace BlockHash

/-- What follows a message of `length` bytes: a one bit, zeros up to eight bytes short of a block's
end, and the length in bits. -/
def tail (hash : BlockHash) (length : Nat) : Bytes :=
  let zeros := (2 * blockSize - 9 - length % blockSize) % blockSize
  0x80 :: List.replicate zeros 0 ++ hash.lengthBytes (8 * length)

/-- A running computation: the state after the whole blocks so far, the bytes since then in reverse
order with their number, and the number of all bytes. -/
structure Running (hash : BlockHash) where
  state : hash.State
  pending : Bytes
  held : Nat
  total : Nat

/-- The computation that has seen no byte. -/
def begin (hash : BlockHash) : Running hash :=
  ⟨hash.start, [], 0, 0⟩

namespace Running

variable {hash : BlockHash}

/-- Takes one more byte; the byte that fills a block is compressed with it. -/
def push (run : Running hash) (byte : UInt8) : Running hash :=
  if run.held + 1 < blockSize then
    { run with pending := byte :: run.pending, held := run.held + 1, total := run.total + 1 }
  else
    { state := hash.compress run.state (byte :: run.pending).reverse
      pending := []
      held := 0
      total := run.total + 1 }

/-- Takes bytes in order. -/
def update (run : Running hash) (bytes : Bytes) : Running hash :=
  bytes.foldl push run

/-- The digest of all bytes taken. -/
def finish (run : Running hash) : Bytes :=
  hash.output (run.update (hash.tail run.total)).state

/-- Bytes taken in two portions are the bytes taken in one. -/
theorem update_append (run : Running hash) (first second : Bytes)
    : run.update (first ++ second) = (run.update first).update second := by
  simp [update, List.foldl_append]

end Running

/-- The states after each whole block of a message, by the number of blocks. -/
def absorb (hash : BlockHash) (state : hash.State) : Nat → Bytes → hash.State
  | 0, _ => state
  | blocks + 1, bytes =>
    hash.absorb (hash.compress state (bytes.take blockSize)) blocks (bytes.drop blockSize)

/-- The digest of a whole message. -/
def digest (hash : BlockHash) (message : Bytes) : Bytes :=
  let padded := message ++ hash.tail message.length
  hash.output (hash.absorb hash.start (padded.length / blockSize) padded)

end BlockHash

end WebHarvest.Digest
