import WebHarvest.Capture.Entry
import WebHarvest.Proofs.Digest.Text
import WebHarvest.Proofs.Text.Decimal

/-! Keys tell contents apart, those with a length from those without as well. No part of a key has a
colon in it, so that the colons divide it in one way, and each part tells what it was written for.
-/

namespace WebHarvest

namespace CaptureKey

/-- The key of a content by its digest, and by its length if there is one to go by. -/
def ofContent (digest : ContentDigest) : Option Nat → CaptureKey
  | some length => ofDigestAndLength digest length
  | none => ofDigest digest

/-- What follows the digest in a key. -/
def suffix : Option Nat → List Char
  | some length => ':' :: (toString length).toList
  | none => []

theorem colon_notMem_base32 (digest : ContentDigest) : ':' ∉ digest.base32.toList := by
  intro member
  rcases Text.Radix.Scheme.mem_encode member with symbol | padding
  · exact absurd symbol (by decide)
  · exact absurd padding (by decide)

theorem hasParts_ofContent (digest : ContentDigest) (length? : Option Nat)
    : ContentDigest.HasParts (ofContent digest length?).text digest.algorithm.name.toList
        (digest.base32.toList ++ suffix length?) := by
  refine ⟨?_, ContentDigest.colon_notMem_name digest.algorithm⟩
  cases length? <;>
    simp [ofContent, ofDigest, ofDigestAndLength, ContentDigest.text, suffix]

/-- A suffix begins with a colon or is empty, so it is told from what stands in front of it. -/
theorem append_suffix_inj {front front' : List Char} {length? length?' : Option Nat}
    (bare : ':' ∉ front) (bare' : ':' ∉ front')
    (same : front ++ suffix length? = front' ++ suffix length?')
    : front = front' ∧ length? = length?' := by
  cases length? with
  | none =>
      cases length?' with
      | none => exact ⟨List.append_cancel_right same, rfl⟩
      | some length' =>
          simp only [suffix, List.append_nil] at same
          exact absurd (same ▸ by simp) bare
  | some length =>
      cases length?' with
      | none =>
          simp only [suffix, List.append_nil] at same
          exact absurd (same ▸ by simp) bare'
      | some length' =>
          obtain ⟨fronts, digits⟩ := Http.append_mark_inj bare bare' same
          exact ⟨fronts, congrArg some (Text.Decimal.toString_inj (String.toList_inj.mp digits))⟩

/-- Keys are the same if they are of one digest and by one length, or both by none. -/
theorem ofContent_inj {digest other : ContentDigest} {length? length?' : Option Nat}
    : ofContent digest length? = ofContent other length?'
      ↔ digest = other ∧ length? = length?' := by
  constructor
  · intro same
    have parts := hasParts_ofContent digest length?
    rw [same] at parts
    obtain ⟨names, tails⟩ := parts.unique (hasParts_ofContent other length?')
    obtain ⟨values, lengths⟩ :=
      append_suffix_inj (colon_notMem_base32 digest) (colon_notMem_base32 other) tails
    refine ⟨ContentDigest.text_inj ?_, lengths⟩
    rw [ContentDigest.text, ContentDigest.text, String.toList_inj.mp names,
      String.toList_inj.mp values]
  · rintro ⟨rfl, rfl⟩
    rfl

theorem ofDigest_inj {digest other : ContentDigest}
    : ofDigest digest = ofDigest other ↔ digest = other := by
  have keys : ofContent digest none = ofContent other none ↔ digest = other ∧ none = none :=
    ofContent_inj
  simpa [ofContent] using keys

theorem ofDigestAndLength_inj {digest other : ContentDigest} {length length' : Nat}
    : ofDigestAndLength digest length = ofDigestAndLength other length'
      ↔ digest = other ∧ length = length' := by
  have keys
      : ofContent digest (some length) = ofContent other (some length')
        ↔ digest = other ∧ some length = some length' :=
    ofContent_inj
  simpa [ofContent] using keys

/-- A key without a length is never one with a length. -/
theorem ofDigest_ne_ofDigestAndLength (digest other : ContentDigest) (length : Nat)
    : ofDigest digest ≠ ofDigestAndLength other length := by
  have keys
      : ofContent digest none = ofContent other (some length)
        ↔ digest = other ∧ none = some length :=
    ofContent_inj
  simpa [ofContent] using keys

end CaptureKey

end WebHarvest
