import Mathlib.Data.List.TakeWhile
import WebHarvest.Digest.Content
import WebHarvest.Proofs.Http.Lines
import WebHarvest.Proofs.Text.Spelling

/-! The texts of digests: which texts denote a digest and which one, what is wrong with the others,
and that a digest with as many bytes as its algorithm gives is read from its own text.
-/

namespace WebHarvest

-----------------------------------------------------------------------------------------
-- Names of algorithms
-----------------------------------------------------------------------------------------

namespace DigestAlgorithm

/-- The spellings of an algorithm's name in lower case. -/
def spellings : DigestAlgorithm → List String
  | sha1 => ["sha1", "sha-1"]
  | sha256 => ["sha256", "sha-256"]
  | md5 => ["md5"]

/-- A name as errors show it: without the white space around it, and in lower case. -/
def folded (text : String) : String :=
  Text.lowerString (Text.trimString text)

/-- A text names an algorithm up to white space around it and the case of its letters. -/
def IsNamed (algorithm : DigestAlgorithm) (text : String) : Prop :=
  folded text ∈ algorithm.spellings

/-- An algorithm is read from its name. -/
theorem ofName_name (algorithm : DigestAlgorithm) : ofName algorithm.name = .ok algorithm := by
  cases algorithm <;> rfl

theorem name_inj {algorithm other : DigestAlgorithm} (same : algorithm.name = other.name)
    : algorithm = other := by
  have read := ofName_name algorithm
  rw [same, ofName_name] at read
  exact (Except.ok.inj read).symm

/-- A text is read as the algorithm that it names. -/
theorem ofName_eq_ok_iff {algorithm : DigestAlgorithm} {text : String}
    : ofName text = .ok algorithm ↔ algorithm.IsNamed text := by
  constructor
  · intro read
    unfold ofName at read
    split at read <;> cases read <;> simp_all [IsNamed, folded, spellings]
  · intro named
    rw [IsNamed, folded] at named
    cases algorithm with
    | sha1 =>
        rcases List.mem_pair.mp named with same | same
        · rw [ofName, same]; rfl
        · rw [ofName, same]; rfl
    | sha256 =>
        rcases List.mem_pair.mp named with same | same
        · rw [ofName, same]; rfl
        · rw [ofName, same]; rfl
    | md5 => rw [ofName, List.mem_singleton.mp named]; rfl

/-- Any other text is rejected, and the error shows it folded. -/
theorem ofName_eq_error_iff {error : DigestError} {text : String}
    : ofName text = .error error
      ↔ (∀ algorithm : DigestAlgorithm, ¬algorithm.IsNamed text)
        ∧ error = .unsupportedAlgorithm (folded text) := by
  have shown {error : DigestError} (rejected : ofName text = .error error)
      : error = .unsupportedAlgorithm (folded text) := by
    unfold ofName at rejected
    split at rejected <;> cases rejected
    rfl
  constructor
  · intro rejected
    refine ⟨?_, shown rejected⟩
    intro algorithm named
    rw [ofName_eq_ok_iff.mpr named] at rejected
    cases rejected
  · rintro ⟨unnamed, rfl⟩
    cases read : ofName text with
    | ok algorithm => exact absurd (ofName_eq_ok_iff.mp read) (unnamed algorithm)
    | error other => rw [shown read]

end DigestAlgorithm

-----------------------------------------------------------------------------------------
-- Texts of digests
-----------------------------------------------------------------------------------------

/-- A digest that an algorithm can have given, by its length. -/
def ContentDigest.IsWhole (digest : ContentDigest) : Prop :=
  digest.value.length = digest.algorithm.length

namespace ContentDigest

/-- A text has a colon: the name in front of the first one and what follows it. -/
def HasParts (text : String) (name encoded : List Char) : Prop :=
  text.toList = name ++ ':' :: encoded ∧ ':' ∉ name

/-- A text denotes a digest: in front of its first colon it names the algorithm, and behind that it
spells the value, which has as many bytes as the algorithm gives.
-/
def IsDenoted (digest : ContentDigest) (text : String) : Prop :=
  ∃ name encoded,
    HasParts text name encoded
    ∧ digest.algorithm.IsNamed (String.ofList name)
    ∧ Text.Radix.base32.Spells encoded digest.value
    ∧ digest.IsWhole

/-- A text has a colon, and what stands in front of the first one names no algorithm. -/
def NamesNone (text : String) (folded : String) : Prop :=
  ∃ name encoded,
    HasParts text name encoded
    ∧ (∀ algorithm : DigestAlgorithm, ¬algorithm.IsNamed (String.ofList name))
    ∧ folded = DigestAlgorithm.folded (String.ofList name)

/-- A text is cut at its first colon in one way. -/
theorem HasParts.unique {text : String} {name encoded other rest : List Char}
    (parts : HasParts text name encoded) (parts' : HasParts text other rest)
    : name = other ∧ encoded = rest :=
  Http.append_mark_inj parts.2 parts'.2 (parts.1.symm.trans parts'.1)

/-- A text that has a colon is judged by the name in front of it, then by what it spells. -/
theorem ofText_of_hasParts {text : String} {name encoded : List Char}
    (parts : HasParts text name encoded)
    : ofText text
      = (DigestAlgorithm.ofName (String.ofList name)).bind fun algorithm =>
          match Text.Radix.base32.decode? encoded with
          | some value =>
            if value.length == algorithm.length then .ok ⟨algorithm, value⟩
            else .error (.malformed text)
          | none => .error (.malformed text) := by
  obtain ⟨written, bare⟩ := parts
  have inside : ∀ c ∈ name, (c != ':') = true := by
    intro c member
    rw [bne_iff_ne]
    exact ne_of_mem_of_not_mem member bare
  have front : (name ++ ':' :: encoded).takeWhile (· != ':') = name := by
    rw [List.takeWhile_append_of_pos inside]
    simp
  have behind : (name ++ ':' :: encoded).dropWhile (· != ':') = ':' :: encoded := by
    rw [List.dropWhile_append_of_pos inside]
    simp
  simp only [ofText, written, front, behind]
  rfl

/-- A text is cut at its first colon, and is malformed if there is none. -/
theorem hasParts_or_malformed (text : String)
    : (∃ name encoded, HasParts text name encoded)
      ∨ (∀ name encoded, ¬HasParts text name encoded)
        ∧ ofText text = .error (.malformed text) := by
  by_cases colon : ':' ∈ text.toList
  · obtain ⟨name, encoded, written, bare⟩ := List.eq_append_cons_of_mem colon
    exact .inl ⟨name, encoded, written, bare⟩
  · refine .inr ⟨?_, ?_⟩
    · intro name encoded parts
      exact colon (parts.1 ▸ by simp)
    · have none : text.toList.dropWhile (· != ':') = [] := by
        rw [List.dropWhile_eq_nil_iff]
        intro c member
        rw [bne_iff_ne]
        exact ne_of_mem_of_not_mem member colon
      simp only [ofText, none]

/-- A text is read as the digest that it denotes. -/
theorem ofText_eq_ok_iff {text : String} {digest : ContentDigest}
    : ofText text = .ok digest ↔ digest.IsDenoted text := by
  constructor
  · intro read
    rcases hasParts_or_malformed text with ⟨name, encoded, parts⟩ | ⟨-, malformed⟩
    · rw [ofText_of_hasParts parts] at read
      cases named : DigestAlgorithm.ofName (String.ofList name) with
      | error why =>
          rw [named] at read
          cases read
      | ok algorithm =>
          rw [named, Except.bind] at read
          split at read
          · rename_i value decoded
            split at read
            · rename_i length
              cases read
              exact ⟨name, encoded, parts, DigestAlgorithm.ofName_eq_ok_iff.mp named,
                Text.Radix.isSound_base32.decode?_eq_some_iff.mp decoded, beq_iff_eq.mp length⟩
            · cases read
          · cases read
    · rw [malformed] at read
      cases read
  · rintro ⟨name, encoded, parts, named, spells, whole⟩
    rw [ofText_of_hasParts parts, DigestAlgorithm.ofName_eq_ok_iff.mpr named, Except.bind,
      Text.Radix.isSound_base32.decode?_eq_some_iff.mpr spells]
    exact if_pos (beq_iff_eq.mpr whole)

/-- A name that is no algorithm's is rejected before anything else is looked at. -/
theorem ofText_of_namesNone {text folded : String} (unknown : NamesNone text folded)
    : ofText text = .error (.unsupportedAlgorithm folded) := by
  obtain ⟨name, encoded, parts, unnamed, rfl⟩ := unknown
  rw [ofText_of_hasParts parts, DigestAlgorithm.ofName_eq_error_iff.mpr ⟨unnamed, rfl⟩]
  rfl

/-- Whatever else is wrong with a text, it is malformed. -/
theorem malformed_of_ofText {text : String} {error : DigestError}
    (rejected : ofText text = .error error) (known : ∀ folded, ¬NamesNone text folded)
    : error = .malformed text := by
  rcases hasParts_or_malformed text with ⟨name, encoded, parts⟩ | ⟨-, malformed⟩
  · rw [ofText_of_hasParts parts] at rejected
    cases named : DigestAlgorithm.ofName (String.ofList name) with
    | error why =>
        have unnamed := (DigestAlgorithm.ofName_eq_error_iff.mp named).1
        exact absurd ⟨name, encoded, parts, unnamed, rfl⟩ (known _)
    | ok algorithm =>
        rw [named, Except.bind] at rejected
        split at rejected
        · split at rejected <;> cases rejected
          rfl
        · cases rejected
          rfl
  · exact (Except.error.inj (malformed.symm.trans rejected)).symm

/-- A text that denotes no digest is rejected: for the name in front of its first colon if that
names no algorithm, else as malformed.
-/
theorem ofText_eq_error_iff {text : String} {error : DigestError}
    : ofText text = .error error
      ↔ (∃ folded, NamesNone text folded ∧ error = .unsupportedAlgorithm folded)
        ∨ (∀ folded, ¬NamesNone text folded)
          ∧ (∀ digest : ContentDigest, ¬digest.IsDenoted text)
          ∧ error = .malformed text := by
  constructor
  · intro rejected
    by_cases known : ∀ folded, ¬NamesNone text folded
    · refine .inr ⟨known, ?_, malformed_of_ofText rejected known⟩
      intro digest denoted
      rw [ofText_eq_ok_iff.mpr denoted] at rejected
      cases rejected
    · obtain ⟨folded, unknown⟩ := not_forall_not.mp known
      rw [ofText_of_namesNone unknown] at rejected
      exact .inl ⟨folded, unknown, (Except.error.inj rejected).symm⟩
  · rintro (⟨folded, unknown, rfl⟩ | ⟨known, undenoted, rfl⟩)
    · exact ofText_of_namesNone unknown
    · cases read : ofText text with
      | ok digest => exact absurd (ofText_eq_ok_iff.mp read) (undenoted digest)
      | error other => rw [malformed_of_ofText read known]

-----------------------------------------------------------------------------------------
-- A digest's own text
-----------------------------------------------------------------------------------------

theorem colon_notMem_name (algorithm : DigestAlgorithm) : ':' ∉ algorithm.name.toList := by
  cases algorithm <;> decide

theorem hasParts_text (digest : ContentDigest)
    : HasParts digest.text digest.algorithm.name.toList digest.base32.toList :=
  ⟨by simp [text], colon_notMem_name digest.algorithm⟩

/-- A whole digest is read from its text, by which it is denoted. -/
theorem ofText_text {digest : ContentDigest} (whole : digest.IsWhole)
    : ofText digest.text = .ok digest := by
  rw [ofText_eq_ok_iff]
  refine ⟨_, _, hasParts_text digest, ?_, ?_, whole⟩
  · rw [String.ofList_toList, ← DigestAlgorithm.ofName_eq_ok_iff]
    exact DigestAlgorithm.ofName_name digest.algorithm
  · rw [← Text.Radix.isSound_base32.decode?_eq_some_iff]
    exact Text.Radix.isSound_base32.decode?_encode digest.value

/-- A digest that was read is whole. -/
theorem isWhole_of_ofText {text : String} {digest : ContentDigest}
    (read : ofText text = .ok digest)
    : digest.IsWhole := by
  obtain ⟨-, -, -, -, -, whole⟩ := ofText_eq_ok_iff.mp read
  exact whole

/-- The texts of digests tell them apart, whole or not: both parts are read back. -/
theorem text_inj {digest other : ContentDigest} (same : digest.text = other.text)
    : digest = other := by
  obtain ⟨names, values⟩ := (same ▸ hasParts_text digest).unique (hasParts_text other)
  have algorithm := DigestAlgorithm.name_inj (String.toList_inj.mp names)
  have value := Text.Radix.isSound_base32.encode_inj (String.toList_inj.mp values)
  cases digest
  cases other
  cases algorithm
  cases value
  rfl

/-- Whole digests are read from their texts, which tell them apart. Beyond these a text is read just
if it denotes a digest, which is whole and is read from its own text as well. A text that denotes
none is rejected for the name in front of its first colon if that names no algorithm, else as
malformed.
-/
theorem text_language
    : (∀ digest : ContentDigest, digest.IsWhole → ofText digest.text = .ok digest)
      ∧ (∀ digest other : ContentDigest, digest.text = other.text → digest = other)
      ∧ (∀ (text : String) (digest : ContentDigest),
          ofText text = .ok digest ↔ digest.IsDenoted text)
      ∧ (∀ (text : String) (digest : ContentDigest),
          ofText text = .ok digest → digest.IsWhole ∧ ofText digest.text = .ok digest)
      ∧ ∀ (text : String) (error : DigestError),
          ofText text = .error error
          ↔ (∃ folded, NamesNone text folded ∧ error = .unsupportedAlgorithm folded)
            ∨ (∀ folded, ¬NamesNone text folded)
              ∧ (∀ digest : ContentDigest, ¬digest.IsDenoted text)
              ∧ error = .malformed text := by
  refine ⟨fun digest whole => ofText_text whole, fun digest other same => text_inj same,
    fun text digest => ofText_eq_ok_iff, ?_, fun text error => ofText_eq_error_iff⟩
  intro text digest read
  have whole := isWhole_of_ofText read
  exact ⟨whole, ofText_text whole⟩

end ContentDigest

end WebHarvest
