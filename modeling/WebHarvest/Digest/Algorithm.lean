import WebHarvest.Digest.Md5
import WebHarvest.Digest.Sha1
import WebHarvest.Digest.Sha256
import WebHarvest.Text.Ascii
import WebHarvest.Text.Blank

/-! The digest algorithms that a crawl can be configured with. -/

namespace WebHarvest

/-- Why a text names no digest or no algorithm. -/
inductive DigestError where
  | unsupportedAlgorithm (name : String)
  | malformed (text : String)
  deriving DecidableEq, Repr

/-- The wording of an error. -/
def DigestError.message : DigestError → String
  | unsupportedAlgorithm name => "unsupported digest algorithm: " ++ name
  | malformed text => "malformed digest: " ++ text

/-- A digest algorithm. -/
inductive DigestAlgorithm where
  | sha1
  | sha256
  | md5
  deriving DecidableEq, Repr

namespace DigestAlgorithm

instance : Inhabited DigestAlgorithm := ⟨sha1⟩

/-- The name that stands before the colon of a digest's text. -/
def name : DigestAlgorithm → String
  | sha1 => "sha1"
  | sha256 => "sha256"
  | md5 => "md5"

/-- Bytes in a digest. -/
def length : DigestAlgorithm → Nat
  | sha1 => 20
  | sha256 => 32
  | md5 => 16

/-- The block digest that computes an algorithm. -/
def hash : DigestAlgorithm → Digest.BlockHash
  | sha1 => Digest.Sha1.hash
  | sha256 => Digest.Sha256.hash
  | md5 => Digest.Md5.hash

/-- Reads a name. White space around it and the case of its letters do not count, and the two
algorithms of the SHA family may be written with a hyphen. -/
def ofName (text : String) : Except DigestError DigestAlgorithm :=
  match Text.lowerString (Text.trimString text) with
  | "sha1" | "sha-1" => .ok sha1
  | "sha256" | "sha-256" => .ok sha256
  | "md5" => .ok md5
  | other => .error (.unsupportedAlgorithm other)

end DigestAlgorithm

end WebHarvest
