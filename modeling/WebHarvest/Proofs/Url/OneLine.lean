import WebHarvest.Proofs.ReadList
import WebHarvest.Proofs.Text.Decimal
import WebHarvest.Proofs.Text.Utf8
import WebHarvest.Url.Parser

/-! What the parts of a web address can be written with: path and query have visible characters of
ASCII only, and no host has a line end.
-/

namespace WebHarvest.Url

/-- The characters of ASCII other than controls and the blank. -/
def IsVisible (c : Char) : Prop :=
  0x20 < c.toNat ∧ c.toNat < 0x7f

instance (c : Char) : Decidable (IsVisible c) :=
  inferInstanceAs (Decidable (_ ∧ _))

/-- A text of visible characters only. -/
def AreVisible (cs : List Char) : Prop :=
  ∀ c ∈ cs, IsVisible c

instance (cs : List Char) : Decidable (AreVisible cs) :=
  List.decidableBAll IsVisible cs

theorem areVisible_append {cs ds : List Char}
    : AreVisible (cs ++ ds) ↔ AreVisible cs ∧ AreVisible ds :=
  List.forall_mem_append

-----------------------------------------------------------------------------------------
-- Escaped texts
-----------------------------------------------------------------------------------------

namespace Percent

theorem areVisible_escape (b : UInt8) : AreVisible (escape b) := by
  have digits : ∀ n < 16, IsVisible (Text.upperAscii (Text.Hex.digit n)) := by decide
  have small : b.toNat < 256 := b.toNat_lt
  intro c member
  rcases List.mem_cons.mp member with rfl | digit
  · decide
  · obtain ⟨n, half, rfl⟩ := List.mem_map.mp digit
    apply digits
    simp only [List.mem_cons, List.not_mem_nil, or_false] at half
    omega

/-- A text is visible once all that is not is escaped. -/
theorem areVisible_encode {set : Char → Bool} (kept : ∀ c, set c = false → IsVisible c)
    (cs : List Char)
    : AreVisible (encode set cs).toList := by
  intro c member
  rw [encode, String.toList_ofList] at member
  obtain ⟨source, -, written⟩ := List.mem_flatMap.mp member
  split at written
  · obtain ⟨b, -, escaped⟩ := List.mem_flatMap.mp written
    exact areVisible_escape b c escaped
  · rename_i unescaped
    rw [List.mem_singleton.mp written]
    exact kept source (by simpa using unescaped)

theorem isVisible_of_plain {c : Char} (noControl : isControl c = false) (noBlank : c ≠ ' ')
    : IsVisible c := by
  have blank : c.toNat ≠ 0x20 := fun same => noBlank (Char.toNat_inj.mp same)
  simp only [isControl, Bool.or_eq_false_iff, decide_eq_false_iff_not] at noControl
  unfold IsVisible
  omega

theorem isVisible_of_inPath {c : Char} (unescaped : inPath c = false) : IsVisible c := by
  simp only [inPath, inFragment, Bool.or_eq_false_iff, beq_eq_false_iff_ne] at unescaped
  exact isVisible_of_plain (by tauto) (by tauto)

theorem isVisible_of_inQuery {special : Bool} {c : Char} (unescaped : inQuery special c = false)
    : IsVisible c := by
  simp only [inQuery, Bool.or_eq_false_iff, beq_eq_false_iff_ne] at unescaped
  exact isVisible_of_plain (by tauto) (by tauto)

end Percent

-----------------------------------------------------------------------------------------
-- Paths and queries
-----------------------------------------------------------------------------------------

namespace Trail

/-- All segments so far are visible. -/
def IsVisible (trail : Trail) : Prop :=
  ∀ segment ∈ trail.done, AreVisible segment.toList

variable {scheme : String} {trail : Trail}

theorem mem_of_mem_shorten {segment : String} {segments : List String}
    (member : segment ∈ shorten segments)
    : segment ∈ segments := by
  cases segments with
  | nil => exact member
  | cons last rest =>
      rw [shorten] at member
      split at member
      · exact member
      · exact List.mem_cons_of_mem _ member

/-- Where no volumes are told apart, one more piece adds a visible segment at most. -/
theorem IsVisible.take (visible : trail.IsVisible) (plain : scheme ≠ "file") (piece : List Char)
    (isLast : Bool)
    : (trail.take scheme piece isLast).IsVisible := by
  have empty : AreVisible "".toList := by decide
  have directory {done : List String} (fewer : ∀ segment ∈ done, AreVisible segment.toList)
      : ∀ segment ∈ if isLast then "" :: done else done, AreVisible segment.toList := by
    split
    · exact List.forall_mem_cons.mpr ⟨empty, fewer⟩
    · exact fewer
  have encoded : AreVisible (Percent.encode Percent.inPath (significant piece)).toList :=
    Percent.areVisible_encode (fun _ => Percent.isVisible_of_inPath) _
  simp only [Trail.take, beq_eq_false_iff_ne.mpr plain, Bool.false_and, Bool.false_eq_true,
    if_false]
  by_cases double : isDoubleDot (significant piece) = true
  · rw [if_pos double]
    exact directory fun segment member => visible segment (mem_of_mem_shorten member)
  rw [if_neg double]
  by_cases single : isSingleDot (significant piece) = true
  · rw [if_pos single]
    exact directory visible
  · rw [if_neg single]
    exact List.forall_mem_cons.mpr ⟨encoded, visible⟩

/-- So do all pieces of a path, by induction on them. -/
theorem IsVisible.follow (visible : trail.IsVisible) (plain : scheme ≠ "file")
    (pieces : List (List Char))
    : (follow scheme trail pieces).IsVisible := by
  induction pieces generalizing trail with
  | nil => exact visible
  | cons piece rest ih => exact ih (visible.take plain piece rest.isEmpty)

/-- So the path that is written is visible. -/
theorem IsVisible.path (visible : trail.IsVisible) (plain : scheme ≠ "file")
    : AreVisible (trail.path scheme).text.toList := by
  have segments : trail.path scheme = .segments trail.done.reverse := by
    simp [Trail.path, plain]
  rw [segments, Path.text, String.toList_join]
  intro c member
  obtain ⟨part, listed, member⟩ := List.mem_flatMap.mp member
  obtain ⟨segment, known, rfl⟩ := List.mem_map.mp listed
  rw [String.toList_append] at member
  rcases List.mem_append.mp member with slash | inside
  · rw [List.mem_singleton.mp slash]
    decide
  · exact visible segment (List.mem_reverse.mp known) c inside

end Trail

theorem isVisible_readPath {scheme : String} (plain : scheme ≠ "file") (cs : List Char)
    : (readPath scheme cs).IsVisible := by
  have nothing : (⟨[], false⟩ : Trail).IsVisible := fun _ member => by cases member
  unfold readPath
  split
  · exact nothing.follow plain _
  · exact nothing

/-- The query of a text is visible. -/
theorem areVisible_readTail {scheme query : String} {cs : List Char}
    (read : (readTail scheme cs).1 = some query)
    : AreVisible query.toList := by
  simp only [readTail] at read
  split at read
  · cases read
    exact Percent.areVisible_encode (fun _ => Percent.isVisible_of_inQuery) _
  · cases read

-----------------------------------------------------------------------------------------
-- Hosts
-----------------------------------------------------------------------------------------

/-- A text without the character that begins a line end. -/
def IsOneLine (cs : List Char) : Prop :=
  '\r' ∉ cs

instance (cs : List Char) : Decidable (IsOneLine cs) :=
  inferInstanceAs (Decidable (_ ∉ cs))

theorem isOneLine_cons {c : Char} {cs : List Char}
    : IsOneLine (c :: cs) ↔ c ≠ '\r' ∧ IsOneLine cs := by
  simp only [IsOneLine, List.mem_cons, not_or, ne_comm]

theorem isOneLine_append {cs ds : List Char}
    : IsOneLine (cs ++ ds) ↔ IsOneLine cs ∧ IsOneLine ds := by
  simp only [IsOneLine, List.mem_append, not_or]

theorem AreVisible.isOneLine {cs : List Char} (visible : AreVisible cs) : IsOneLine cs := by
  intro member
  exact absurd (visible '\r' member) (by decide)

theorem isOneLine_digits {cs : List Char} (digits : Text.Decimal.AreDigits cs) : IsOneLine cs := by
  intro member
  exact absurd (digits '\r' member) (by decide)

/-- Texts without line ends can be joined with a separator that has none, by induction on them. -/
theorem isOneLine_intercalate {separator : List Char} {pieces : List (List Char)}
    (separated : IsOneLine separator) (lines : ∀ piece ∈ pieces, IsOneLine piece)
    : IsOneLine (List.intercalate separator pieces) := by
  induction pieces with
  | nil => exact List.not_mem_nil
  | cons piece rest ih =>
      obtain ⟨first, others⟩ := List.forall_mem_cons.mp lines
      cases rest with
      | nil => simpa [List.intercalate] using first
      | cons next rest =>
          rw [List.intercalate, List.intersperse_cons_cons, List.flatten_cons, List.flatten_cons]
          exact isOneLine_append.mpr ⟨first, isOneLine_append.mpr ⟨separated, ih others⟩⟩

namespace Punycode

/-- No digit begins a line end, nor does what stands for a value beyond the digits. -/
theorem digit_ne (n : Nat) : digit n ≠ '\r' := by
  have other {code : Nat} (beyond : 13 < code) : Char.ofNat code ≠ '\r' := by
    intro same
    by_cases valid : code.isValidChar
    · have number := congrArg Char.toNat same
      rw [Text.toNat_ofNat_of_valid valid] at number
      exact absurd number (Nat.ne_of_gt beyond)
    · rw [Char.ofNat, dif_neg valid] at same
      exact absurd same (by decide)
  unfold digit
  split
  · exact other (Nat.lt_add_right n (by decide))
  · exact other (Nat.lt_add_right (n - 26) (by decide))

theorem isOneLine_number (fuel bias place n : Nat) : IsOneLine (number fuel bias place n) := by
  induction fuel generalizing place n with
  | zero => exact isOneLine_cons.mpr ⟨digit_ne n, List.not_mem_nil⟩
  | succ fuel ih =>
      rw [number]
      split
      · exact isOneLine_cons.mpr ⟨digit_ne n, List.not_mem_nil⟩
      · exact isOneLine_cons.mpr ⟨digit_ne _, ih _ _⟩

/-- One more character keeps the text on one line. -/
theorem isOneLine_pass {p : Progress} (line : IsOneLine p.out) (basic code : Nat) (c : Char)
    : IsOneLine (pass basic code p c).out := by
  unfold pass
  split
  · exact line
  split
  · exact isOneLine_append.mpr ⟨line, isOneLine_number _ _ _ _⟩
  · exact line

/-- So do all characters of a label, by induction on them. -/
theorem isOneLine_foldl_pass {p : Progress} (line : IsOneLine p.out) (basic code : Nat)
    (cs : List Char)
    : IsOneLine (cs.foldl (pass basic code) p).out := by
  induction cs generalizing p with
  | nil => exact line
  | cons c rest ih => exact ih (isOneLine_pass line basic code c)

/-- And so do all code points, by induction on those that are left. -/
theorem isOneLine_writeCodes (label : List Char) (basic : Nat) (codes : List Nat) (next : Nat)
    {p : Progress} (line : IsOneLine p.out)
    : IsOneLine (writeCodes label basic codes next p) := by
  induction codes generalizing next p with
  | nil => exact line
  | cons code codes ih =>
      refine ih _ (isOneLine_foldl_pass ?_ basic code label)
      exact line

theorem isOneLine_encode {label : List Char} (line : IsOneLine label)
    : IsOneLine (encode label) := by
  unfold encode
  have basic : IsOneLine (label.filter (·.toNat < 0x80)) :=
    fun member => line (List.mem_filter.mp member).1
  refine isOneLine_append.mpr ⟨isOneLine_append.mpr ⟨basic, ?_⟩, ?_⟩
  · split
    · decide
    · decide
  · exact isOneLine_writeCodes label _ _ _ List.not_mem_nil

end Punycode

namespace Domain

/-- The pieces of a text have no characters but its own, by induction on the text. -/
theorem mem_of_mem_splitOn {separator : Char} {cs piece : List Char}
    (listed : piece ∈ splitOn separator cs) {c : Char} (member : c ∈ piece)
    : c ∈ cs := by
  induction cs generalizing piece with
  | nil =>
      rw [splitOn, List.mem_singleton] at listed
      exact listed ▸ member
  | cons d rest ih =>
      rw [splitOn] at listed
      split at listed
      · rcases List.mem_cons.mp listed with rfl | later
        · cases member
        · exact List.mem_cons_of_mem d (ih later member)
      · split at listed
        · rename_i first others pieces
          rcases List.mem_cons.mp listed with rfl | later
          · rcases List.mem_cons.mp member with rfl | inside
            · exact List.mem_cons_self
            · exact List.mem_cons_of_mem d (ih (pieces ▸ List.mem_cons_self) inside)
          · exact List.mem_cons_of_mem d (ih (pieces ▸ List.mem_cons_of_mem first later) member)
        · rw [List.mem_singleton] at listed
          rw [listed, List.mem_singleton] at member
          exact member ▸ List.mem_cons_self

/-- A label that is read from one line is written in ASCII on one line, by cases of its form. -/
theorem Label.isOneLine_ascii {cs : List Char} {label : Label} (line : IsOneLine cs)
    (read : Label.ofFolded? cs = some label)
    : IsOneLine label.ascii := by
  unfold Label.ofFolded? at read
  split at read
  · dsimp only at read
    split at read
    · obtain ⟨shown, -, read⟩ := Option.bind_eq_some_iff.mp read
      split at read
      · cases read
        exact line
      · cases read
    · cases read
  split at read
  · cases read
    exact line
  split at read
  · cases read
    exact isOneLine_append.mpr ⟨by decide, Punycode.isOneLine_encode line⟩
  · cases read

/-- The labels of a name are read from texts without line ends, since no control is admitted. -/
theorem isOneLine_of_mem_labels? {cs : List Char} {labels : List Label}
    (read : labels? cs = some labels)
    : ∀ label ∈ labels, IsOneLine label.ascii := by
  obtain ⟨folded, -, read⟩ := Option.bind_eq_some_iff.mp read
  dsimp only at read
  split at read
  · cases read
  · rename_i admitted
    obtain ⟨found, pieces, read⟩ := Option.bind_eq_some_iff.mp read
    split at read
    · cases read
    · cases read
      intro label listed
      obtain ⟨piece, among, source⟩ := exists_of_mem_mapM pieces label listed
      refine Label.isOneLine_ascii ?_ source
      intro member
      apply admitted
      exact List.any_eq_true.mpr ⟨'\r', mem_of_mem_splitOn among member, by decide⟩

/-- A name has no line end since its characters may not be controls before its labels are written
in ASCII.
-/
theorem isOneLine_ofUtf8? {bytes : Bytes} {name : String} (read : ofUtf8? bytes = some name)
    : IsOneLine name.toList := by
  obtain ⟨text, -, read⟩ := Option.bind_eq_some_iff.mp read
  obtain ⟨labels, known, read⟩ := Option.bind_eq_some_iff.mp read
  cases read
  rw [String.toList_ofList]
  apply isOneLine_intercalate
  · decide
  · exact List.forall_mem_map.mpr (isOneLine_of_mem_labels? known)

end Domain

namespace Host

/-- Addresses of version four have digits and points only. -/
theorem isOneLine_ipv4 (address : Nat) : IsOneLine (ipv4 address).text.toList := by
  rw [text, String.toList_intercalate]
  apply isOneLine_intercalate
  · decide
  · intro piece listed
    simp only [List.map_map, List.mem_map] at listed
    obtain ⟨unit, -, rfl⟩ := listed
    rw [Function.comp_apply, Text.Decimal.toList_toString]
    exact isOneLine_digits (Text.Decimal.areDigits_toDigits _)

/-- By strong induction on the piece, whose digits are those of its sixteenth part and one more. -/
theorem isOneLine_hexPiece (n : Nat) : IsOneLine (hexPiece n) := by
  have single : ∀ digit < 16, IsOneLine [Nat.digitChar digit] := by decide
  unfold hexPiece
  induction n using Nat.strongRecOn with
  | _ n ih =>
      by_cases last : n < 16
      · rw [Nat.toDigits_of_lt_base last]
        exact single n last
      · rw [Nat.toDigits_of_base_le (by decide) (Nat.le_of_not_lt last)]
        exact isOneLine_append.mpr ⟨ih (n / 16) (by omega), single _ (Nat.mod_lt n (by decide))⟩

theorem isOneLine_colons (pieces : List Nat) : IsOneLine (colons pieces) := by
  apply isOneLine_intercalate
  · decide
  · exact List.forall_mem_map.mpr fun piece _ => isOneLine_hexPiece piece

/-- Addresses of version six have hexadecimal digits, colons and brackets only. -/
theorem isOneLine_ipv6 (pieces : List Nat) : IsOneLine (ipv6 pieces).text.toList := by
  have bracketed {inner : List Char} (line : IsOneLine inner)
      : IsOneLine ('[' :: inner ++ [']']) :=
    isOneLine_append.mpr ⟨isOneLine_cons.mpr ⟨by decide, line⟩, by decide⟩
  rw [text, ipv6Text, String.toList_ofList]
  apply bracketed
  split
  · rename_i start length _
    have before := isOneLine_colons (pieces.take start)
    have after := isOneLine_colons (pieces.drop (start + length))
    have gap : IsOneLine (':' :: ':' :: colons (pieces.drop (start + length))) :=
      isOneLine_cons.mpr ⟨by decide, isOneLine_cons.mpr ⟨by decide, after⟩⟩
    exact isOneLine_append.mpr ⟨before, gap⟩
  · exact isOneLine_colons pieces

/-- Only addresses stand between brackets. -/
theorem exists_of_bracketed? {cs : List Char} {host : Host} (read : bracketed? cs = some host)
    : ∃ pieces, host = .ipv6 pieces := by
  unfold bracketed? ipv6? at read
  split at read
  · split at read
    · obtain ⟨pieces, -, read⟩ := Option.bind_eq_some_iff.mp read
      split at read
      · cases read
        exact ⟨_, rfl⟩
      · cases read
    · dsimp only at read
      split at read
      · cases read
      · obtain ⟨left, -, read⟩ := Option.bind_eq_some_iff.mp read
        obtain ⟨right, -, read⟩ := Option.bind_eq_some_iff.mp read
        split at read
        · cases read
          exact ⟨_, rfl⟩
        · cases read
  · cases read

theorem exists_of_ipv4? {cs : List Char} {host : Host} (read : ipv4? cs = some host)
    : ∃ address, host = .ipv4 address := by
  obtain ⟨numbers, -, read⟩ := Option.bind_eq_some_iff.mp read
  obtain ⟨last, -, read⟩ := Option.bind_eq_some_iff.mp read
  dsimp only at read
  split at read
  · cases read
    exact ⟨_, rfl⟩
  · cases read

/-- The host of a special scheme has no line end. -/
theorem isOneLine_text {cs : List Char} {host : Host} (read : special? cs = some host)
    : IsOneLine host.text.toList := by
  unfold special? at read
  split at read
  · obtain ⟨pieces, rfl⟩ := exists_of_bracketed? read
    exact isOneLine_ipv6 pieces
  · obtain ⟨name, domain, read⟩ := Option.bind_eq_some_iff.mp read
    split at read
    · cases read
    split at read
    · obtain ⟨address, rfl⟩ := exists_of_ipv4? read
      exact isOneLine_ipv4 address
    · cases read
      exact Domain.isOneLine_ofUtf8? domain

end Host

-----------------------------------------------------------------------------------------
-- Addresses
-----------------------------------------------------------------------------------------

/-- An address that is read from a text and has one of the two schemes of the web. -/
structure IsWeb (url : Url) : Prop where
  read : ∃ text, read? text = some url
  scheme : url.scheme = "http" ∨ url.scheme = "https"

/-- The authority of a special scheme has a host of such a scheme. -/
theorem host_of_readAuthority? {scheme : String} (special : isSpecial scheme = true)
    {cs : List Char} {goesOn : Bool} {authority : Authority}
    (read : readAuthority? scheme cs goesOn = some authority)
    : ∃ host text, authority.host = some host ∧ Host.special? text = some host := by
  unfold readAuthority? at read
  simp only [special, if_true, Bool.true_or] at read
  split at read
  · cases read
  · obtain ⟨host, known, read⟩ := Option.bind_eq_some_iff.mp read
    obtain ⟨⟨port, rest⟩, -, read⟩ := Option.bind_eq_some_iff.mp read
    dsimp only at read
    split at read
    · cases read
      exact ⟨host, _, rfl, known⟩
    · cases read

theorem scheme_of_readPlaced? {scheme : String} {cs : List Char} {hasTail : Bool} {url : Url}
    (read : readPlaced? scheme cs hasTail = some url)
    : url.scheme = scheme := by
  obtain ⟨authority, -, placed⟩ := Option.bind_eq_some_iff.mp read
  cases placed
  rfl

theorem scheme_of_readFilePlaced? {cs : List Char} {url : Url}
    (read : readFilePlaced? cs = some url)
    : url.scheme = "file" := by
  unfold readFilePlaced? at read
  dsimp only at read
  split at read
  · cases read
    rfl
  split at read
  · cases read
    rfl
  · obtain ⟨host, -, read⟩ := Option.bind_eq_some_iff.mp read
    split at read
    · cases read
      rfl
    · cases read
      rfl

/-- The scheme stays what it is, whatever follows it. -/
theorem scheme_of_readBody? {scheme : String} {cs : List Char} {hasTail : Bool} {url : Url}
    (read : readBody? scheme cs hasTail = some url)
    : url.scheme = scheme := by
  unfold readBody? at read
  split at read
  · rename_i file
    have file : "file" = scheme := (eq_of_beq file).symm
    split at read
    · split at read
      · exact (scheme_of_readFilePlaced? read).trans file
      · cases read
        rfl
    · cases read
      rfl
  split at read
  · exact scheme_of_readPlaced? read
  · split at read
    · split at read
      · exact scheme_of_readPlaced? read
      · cases read
        rfl
    · cases read
      rfl

variable {url : Url}

theorem IsWeb.special (web : url.IsWeb)
    : isSpecial url.scheme = true ∧ url.scheme ≠ "file" := by
  rcases web.scheme with http | https
  · rw [http]
    decide
  · rw [https]
    decide

/-- A web address is one with an authority. -/
theorem IsWeb.exists_placed (web : url.IsWeb)
    : ∃ cs hasTail placed tail,
        readPlaced? url.scheme cs hasTail = some placed
        ∧ url
          = { placed with
              query := (readTail url.scheme tail).1
              fragment := (readTail url.scheme tail).2 } := by
  obtain ⟨text, read⟩ := web.read
  obtain ⟨⟨scheme, rest⟩, -, read⟩ := Option.bind_eq_some_iff.mp read
  obtain ⟨placed, body, read⟩ := Option.bind_eq_some_iff.mp read
  cases read
  have same : placed.scheme = scheme := scheme_of_readBody? body
  subst same
  have special : isSpecial placed.scheme = true ∧ placed.scheme ≠ "file" := web.special
  unfold readBody? at body
  rw [if_neg (by simpa using special.2), if_pos special.1] at body
  exact ⟨_, _, placed, _, body, rfl⟩

/-- Its path is visible. -/
theorem IsWeb.areVisible_pathText (web : url.IsWeb) : AreVisible url.pathText.toList := by
  obtain ⟨cs, hasTail, placed, tail, read, same⟩ := web.exists_placed
  obtain ⟨authority, -, parts⟩ := Option.bind_eq_some_iff.mp read
  cases parts
  rw [same]
  exact (isVisible_readPath web.special.2 _).path web.special.2

/-- So is its query. -/
theorem IsWeb.areVisible_query (web : url.IsWeb) {query : String}
    (known : url.query = some query)
    : AreVisible query.toList := by
  obtain ⟨cs, hasTail, placed, tail, -, same⟩ := web.exists_placed
  rw [same] at known
  exact areVisible_readTail known

/-- It has a host, on one line. -/
theorem IsWeb.exists_host (web : url.IsWeb)
    : ∃ host, url.host = some host ∧ IsOneLine host.text.toList := by
  obtain ⟨cs, hasTail, placed, tail, read, same⟩ := web.exists_placed
  obtain ⟨authority, located, parts⟩ := Option.bind_eq_some_iff.mp read
  cases parts
  obtain ⟨host, text, known, read⟩ := host_of_readAuthority? web.special.1 located
  rw [same]
  exact ⟨host, known, Host.isOneLine_text read⟩

end WebHarvest.Url
