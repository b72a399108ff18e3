import WebHarvest.Http.Header
import WebHarvest.Proofs.KeyedList
import WebHarvest.Proofs.Text.Utf8

/-! The values of one name after fields were added or set: no other name has a part in them. And the
text of a value is a value again, the same one.
-/

namespace WebHarvest.Http

/-- A value that is readable as a text may be sent as that text, byte for byte. -/
theorem headerValue?_of_readable {value : Bytes} {text : String}
    (read : readable? value = some text)
    : Text.utf8 text = value ∧ headerValue? text = some value := by
  unfold readable? at read
  split at read
  · rename_i printable
    cases read
    have readable : ∀ b ∈ value, b = 9 ∨ 0x20 ≤ b ∧ b < 0x7f := by
      simpa using printable
    have same : Text.utf8 (String.ofList (value.map fun b => Char.ofNat b.toNat)) = value :=
      Text.utf8_ofList_of_ascii fun b member => by
        have := readable b member
        grind
    refine ⟨same, ?_⟩
    have valid : isValue value = true := by
      rw [isValue, List.all_eq_true]
      intro b member
      have := readable b member
      simp only [isValueByte, Bool.or_eq_true, Bool.and_eq_true, beq_iff_eq, bne_iff_ne,
        decide_eq_true_eq]
      grind
    rw [headerValue?, same, if_pos valid]
  · cases read

/-- A text of printable ASCII may be sent as it is. -/
theorem headerValue?_of_printable {text : String}
    (printable : ∀ c ∈ text.toList, 0x20 ≤ c.toNat ∧ c.toNat < 0x7f)
    : headerValue? text = some (Text.utf8 text) := by
  have bytes : Text.utf8 text = text.toList.map fun c => c.toNat.toUInt8 :=
    Text.utf8_of_ascii fun c member => Nat.lt_trans (printable c member).2 (by decide)
  have valid : isValue (Text.utf8 text) = true := by
    rw [bytes, isValue, List.all_map, List.all_eq_true]
    intro c member
    obtain ⟨least, most⟩ := printable c member
    have code : c.toNat.toUInt8.toNat = c.toNat := by
      simp
      omega
    simp only [Function.comp_apply, isValueByte, Bool.or_eq_true, Bool.and_eq_true, bne_iff_ne,
      decide_eq_true_eq]
    refine .inr ⟨?_, ?_⟩
    · rw [UInt8.le_iff_toNat_le, code]
      exact least
    · intro same
      have := congrArg UInt8.toNat same
      rw [code] at this
      simp at this
      omega
  simp only [headerValue?, valid, if_true]

/-- A text of visible ASCII, blanks and tabs. -/
def IsReadable (text : String) : Prop :=
  ∀ c ∈ text.toList, c = '\t' ∨ (0x20 ≤ c.toNat ∧ c.toNat < 0x7f)

/-- What is read of a value is readable. -/
theorem isReadable_of_readable? {value : Bytes} {text : String}
    (read : readable? value = some text)
    : IsReadable text := by
  unfold readable? at read
  split at read
  · rename_i printable
    cases read
    rw [List.all_eq_true] at printable
    intro c member
    rw [String.toList_ofList] at member
    obtain ⟨b, listed, rfl⟩ := List.mem_map.mp member
    have range : b = 9 ∨ 0x20 ≤ b ∧ b < 0x7f := by simpa using printable b listed
    rcases range with rfl | ⟨least, most⟩
    · exact .inl rfl
    · have least : 0x20 ≤ b.toNat := least
      have most : b.toNat < 0x7f := most
      rw [Text.toNat_ofNat_of_valid (.inl (by omega))]
      exact .inr ⟨least, most⟩
  · cases read

/-- A readable text is read of its bytes. -/
theorem readable?_utf8 {text : String} (readable : IsReadable text)
    : readable? (Text.utf8 text) = some text := by
  have small : ∀ c ∈ text.toList, c.toNat < 0x7f := by
    intro c member
    rcases readable c member with rfl | ⟨-, most⟩
    · decide
    · exact most
  have bytes : Text.utf8 text = text.toList.map fun c => c.toNat.toUInt8 :=
    Text.utf8_of_ascii fun c member => Nat.lt_trans (small c member) (by decide)
  have byte (c : Char) (member : c ∈ text.toList) : c.toNat.toUInt8.toNat = c.toNat := by
    have := small c member
    simp
    omega
  have printable : ((Text.utf8 text).all fun b => b == 9 || (0x20 ≤ b && b < 0x7f)) = true := by
    rw [bytes, List.all_map, List.all_eq_true]
    intro c member
    simp only [Function.comp_apply, Bool.or_eq_true, Bool.and_eq_true, beq_iff_eq,
      decide_eq_true_eq, UInt8.le_iff_toNat_le, UInt8.lt_iff_toNat_lt, byte c member]
    rcases readable c member with rfl | range
    · exact .inl rfl
    · exact .inr range
  have same : (Text.utf8 text).map (fun b => Char.ofNat b.toNat) = text.toList := by
    rw [bytes, List.map_map]
    refine (List.map_congr_left fun c member => ?_).trans (List.map_id _)
    rw [Function.comp_apply, byte c member, Char.ofNat_toNat]
    rfl
  rw [readable?, if_pos printable, same, String.ofList_toList]

/-- So a value is read as a text just if it is that text, byte for byte, and can be read. -/
theorem readable?_eq_some_iff {value : Bytes} {text : String}
    : readable? value = some text ↔ Text.utf8 text = value ∧ IsReadable text := by
  constructor
  · intro read
    exact ⟨(headerValue?_of_readable read).1, isReadable_of_readable? read⟩
  · rintro ⟨rfl, readable⟩
    exact readable?_utf8 readable

end WebHarvest.Http

namespace WebHarvest.Http.Headers

variable {headers : Headers} {name other : String}

theorem values_eq (headers : Headers) (name : String)
    : headers.values name = (KeyedList.value? headers.groups name).getD [] :=
  rfl

/-- After a name is set, it has the one value and every other name has what it had before. -/
theorem values_insert (headers : Headers) (name other : String) (value : Bytes)
    : (headers.insert name value).values other
      = if other = name then [value] else headers.values other := by
  have set :=
    KeyedList.value?_set (insertIn name value) rfl (by simp [insertIn])
      (by simp +contextual [insertIn]) headers.groups other
  rw [values_eq, values_eq, insert, set]
  split <;> rfl

/-- Setting another name changes nothing. -/
theorem values_insert_of_ne (different : other ≠ name) (headers : Headers) (value : Bytes)
    : (headers.insert name value).values other = headers.values other := by
  rw [values_insert, if_neg different]

/-- Adding to another name changes nothing. -/
theorem values_append_of_ne (different : other ≠ name) (headers : Headers) (value : Bytes)
    : (headers.append name value).values other = headers.values other := by
  have added (kept : List Bytes) (rest : List (String × List Bytes))
      : appendTo name value ((name, kept) :: rest) = (name, kept ++ [value]) :: rest := by
    simp [appendTo]
  have altered :=
    KeyedList.value?_alter (appendTo name value) rfl added
      (by simp +contextual [appendTo]) headers.groups other
  rw [if_neg different] at altered
  rw [values_eq, values_eq, append, altered]

/-- A name that no field has gets no value, by induction on the fields. -/
theorem values_ofList_of_absent {fields : List (String × Bytes)}
    (absent : ∀ field ∈ fields, field.1 ≠ name)
    : (ofList fields).values name = [] := by
  suffices general
      : ∀ headers : Headers,
          (fields.foldl (fun headers field => headers.append field.1 field.2) headers).values name
          = headers.values name by
    exact general empty
  induction fields with
  | nil => exact fun _ => rfl
  | cons field rest ih =>
      intro headers
      rw [List.foldl_cons, ih fun later member => absent later (List.mem_cons_of_mem _ member)]
      exact values_append_of_ne (absent field List.mem_cons_self).symm headers field.2

end WebHarvest.Http.Headers
