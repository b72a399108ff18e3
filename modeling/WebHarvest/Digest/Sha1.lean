import WebHarvest.Digest.BlockHash

/-! The digest function SHA-1: five words of state, eighty rounds to a block. -/

namespace WebHarvest.Digest.Sha1

/-- The five words of the state. -/
structure State where
  a : UInt32
  b : UInt32
  c : UInt32
  d : UInt32
  e : UInt32

/-- The state before the first block. -/
def start : State :=
  ⟨0x67452301, 0xefcdab89, 0x98badcfe, 0x10325476, 0xc3d2e1f0⟩

/-- Adds `count` words to a schedule, each made of four words that stand before it. -/
def extend : Nat → Array UInt32 → Array UInt32
  | 0, w => w
  | count + 1, w =>
    let ago (back : Nat) := w.getD (w.size - back) 0
    extend count (w.push (rotateLeft (ago 3 ^^^ ago 8 ^^^ ago 14 ^^^ ago 16) 1))

/-- The function that mixes three words and the constant added, for each round. -/
def mix (round : Nat) (b c d : UInt32) : UInt32 :=
  if round < 20 then ((b &&& c) ||| (~~~b &&& d)) + 0x5a827999
  else if round < 40 then (b ^^^ c ^^^ d) + 0x6ed9eba1
  else if round < 60 then ((b &&& c) ||| (b &&& d) ||| (c &&& d)) + 0x8f1bbcdc
  else (b ^^^ c ^^^ d) + 0xca62c1d6

/-- One round for each word of the schedule. -/
def rounds : Nat → State → List UInt32 → State
  | _, s, [] => s
  | round, s, w :: rest =>
    let a := rotateLeft s.a 5 + mix round s.b s.c s.d + s.e + w
    rounds (round + 1) ⟨a, s.a, rotateLeft s.b 30, s.c, s.d⟩ rest

/-- The state after one more block. -/
def compress (s : State) (block : Bytes) : State :=
  let r := rounds 0 s (extend 64 (words bigEndian block).toArray).toList
  ⟨s.a + r.a, s.b + r.b, s.c + r.c, s.d + r.d, s.e + r.e⟩

/-- SHA-1 as a block digest. -/
def hash : BlockHash where
  State := State
  start := start
  compress := compress
  lengthBytes := bigEndianBytes 8
  output s := [s.a, s.b, s.c, s.d, s.e].flatMap fun w => bigEndianBytes 4 w.toNat

end WebHarvest.Digest.Sha1
