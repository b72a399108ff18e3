import WebHarvest.Digest.Algorithm
import WebHarvest.Text.Hex
import WebHarvest.Text.Radix

/-! Digests of content: a finished digest with its text `algorithm:BASE32`, and the hasher that
computes one over bytes as they arrive. -/

namespace WebHarvest

/-- A finished digest. -/
structure ContentDigest where
  algorithm : DigestAlgorithm
  value : Bytes
  deriving DecidableEq, Repr

namespace ContentDigest

/-- The digest's bytes in base 32. -/
def base32 (digest : ContentDigest) : String :=
  Text.Radix.base32.encode digest.value

/-- The digest's bytes in hexadecimal. -/
def hex (digest : ContentDigest) : String :=
  Text.Hex.encode digest.value

/-- The algorithm's name, a colon and the bytes in base 32. -/
def text (digest : ContentDigest) : String :=
  digest.algorithm.name ++ ":" ++ digest.base32

/-- Reads a digest's text. The name of the algorithm is judged before what follows the first
colon, and the bytes must be as many as the algorithm's digests have. -/
def ofText (text : String) : Except DigestError ContentDigest :=
  let cs := text.toList
  match cs.dropWhile (· != ':') with
  | [] => .error (.malformed text)
  | _ :: encoded => do
    let algorithm ← DigestAlgorithm.ofName (String.ofList (cs.takeWhile (· != ':')))
    match Text.Radix.base32.decode? encoded with
    | some value =>
      if value.length == algorithm.length then .ok ⟨algorithm, value⟩
      else .error (.malformed text)
    | none => .error (.malformed text)

end ContentDigest

/-- The digest of a whole message. -/
def DigestAlgorithm.digest (algorithm : DigestAlgorithm) (message : Bytes) : ContentDigest :=
  ⟨algorithm, algorithm.hash.digest message⟩

/-- A digest under computation. -/
structure Hasher where
  algorithm : DigestAlgorithm
  running : Digest.BlockHash.Running algorithm.hash

namespace Hasher

/-- The hasher of an algorithm that has seen no byte. -/
def start (algorithm : DigestAlgorithm) : Hasher :=
  ⟨algorithm, algorithm.hash.begin⟩

/-- Takes bytes in order. -/
def update (hasher : Hasher) (bytes : Bytes) : Hasher :=
  ⟨hasher.algorithm, hasher.running.update bytes⟩

/-- The digest of all bytes taken. -/
def finish (hasher : Hasher) : ContentDigest :=
  ⟨hasher.algorithm, hasher.running.finish⟩

end Hasher

end WebHarvest
