import WebHarvest.Text.Utf8

/-! Words of thirty-two bits as the digest functions use them: rotation, and conversion from and to
bytes in both byte orders. -/

namespace WebHarvest.Digest

/-- A word turned to the left by `n` bits, for `n` between one and thirty-one. -/
def rotateLeft (w : UInt32) (n : UInt32) : UInt32 :=
  (w <<< n) ||| (w >>> (32 - n))

/-- A word turned to the right by `n` bits, for `n` between one and thirty-one. -/
def rotateRight (w : UInt32) (n : UInt32) : UInt32 :=
  rotateLeft w (32 - n)

/-- The number that bytes denote, least significant byte first. -/
def littleEndian (bytes : Bytes) : Nat :=
  bytes.foldr (fun b n => n * 256 + b.toNat) 0

/-- The lowest `count` bytes of a number, least significant first. -/
def littleEndianBytes : Nat → Nat → Bytes
  | 0, _ => []
  | count + 1, n => UInt8.ofNat (n % 256) :: littleEndianBytes count (n / 256)

/-- The number that bytes denote, most significant byte first. -/
def bigEndian (bytes : Bytes) : Nat :=
  littleEndian bytes.reverse

/-- The lowest `count` bytes of a number, most significant first. -/
def bigEndianBytes (count n : Nat) : Bytes :=
  (littleEndianBytes count n).reverse

/-- The words of a byte sequence, four bytes to a word, read by the given rule. -/
def words (read : Bytes → Nat) : Bytes → List UInt32
  | a :: b :: c :: d :: rest => UInt32.ofNat (read [a, b, c, d]) :: words read rest
  | _ => []

end WebHarvest.Digest
