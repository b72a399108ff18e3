import WebHarvest.Text.Utf8

/-! Texts and their bytes: the bytes of a text are those of its characters in order, they are read
as the text that they came from, and each character of ASCII is one byte.
-/

namespace WebHarvest.Text

/-- Listing the bytes of an array from a place on puts them behind those listed before, by induction
on the way to the end of the array.
-/
theorem toList_loop_eq (array : ByteArray) (place : Nat) (listed : List UInt8)
    : ByteArray.toList.loop array place listed
      = listed.reverse ++ array.data.toList.drop place := by
  fun_induction ByteArray.toList.loop array place listed with
  | case1 place listed inside ih =>
      have inside' : place < array.data.toList.length := by simpa using inside
      rw [ih, List.drop_eq_getElem_cons inside']
      simp [ByteArray.get!, inside]
  | case2 place listed outside =>
      have ended : array.data.toList.length ≤ place := by simpa using outside
      rw [List.drop_eq_nil_of_le ended, List.append_nil]

theorem toList_eq (array : ByteArray) : array.toList = array.data.toList := by
  rw [ByteArray.toList, toList_loop_eq]
  rfl

/-- The bytes of a text are those of its characters. -/
theorem utf8_eq_flatMap (s : String) : utf8 s = s.toList.flatMap String.utf8EncodeChar := by
  have encoded : s.toByteArray = s.toList.utf8Encode := by
    rw [← String.toByteArray_ofList, String.ofList_toList]
  rw [utf8, String.toUTF8_eq_toByteArray, toList_eq, encoded, List.utf8Encode,
    List.toList_data_toByteArray]

/-- The bytes of a text are read as that text. -/
theorem ofUtf8?_utf8 (s : String) : ofUtf8? (utf8 s) = some s := by
  have same : (⟨(utf8 s).toArray⟩ : ByteArray) = s.toByteArray := by
    rw [utf8, String.toUTF8_eq_toByteArray, toList_eq]
  rw [ofUtf8?, same, String.fromUTF8?, dif_pos s.isValidUTF8]
  rfl

/-- So different texts have different bytes. -/
theorem utf8_injective : Function.Injective utf8 := by
  intro s t same
  have read := ofUtf8?_utf8 s
  rw [same, ofUtf8?_utf8] at read
  exact (Option.some.inj read).symm

/-- A byte of ASCII in a text is a character of its own. -/
theorem mem_of_mem_utf8 {s : String} {c : Char} (ascii : c.toNat < 0x80)
    (member : c.toNat.toUInt8 ∈ utf8 s)
    : c ∈ s.toList := by
  rw [utf8_eq_flatMap] at member
  obtain ⟨d, listed, written⟩ := List.mem_flatMap.mp member
  have small : c.toNat.toUInt8.toNat = c.toNat := by
    simp
    omega
  have same : d.toNat = c.toNat := by
    have number : d.val.toNat = d.toNat := rfl
    simp only [String.utf8EncodeChar, number] at written
    generalize d.toNat = code at written ⊢
    generalize c.toNat.toUInt8 = byte at written small
    -- The bytes of a longer form are 0x80 or more.
    have longer {value : Nat} (high : 0x80 ≤ value % 256) (here : byte = .ofNat value) : False := by
      rw [here, UInt8.toNat_ofNat'] at small
      omega
    split at written
    · rw [List.mem_singleton.mp written, UInt8.toNat_ofNat'] at small
      omega
    split at written
    · simp only [List.mem_cons, List.not_mem_nil, or_false] at written
      rcases written with here | here <;> exact (longer (by omega) here).elim
    split at written
    · simp only [List.mem_cons, List.not_mem_nil, or_false] at written
      rcases written with here | here | here <;> exact (longer (by omega) here).elim
    · simp only [List.mem_cons, List.not_mem_nil, or_false] at written
      rcases written with here | here | here | here <;> exact (longer (by omega) here).elim
  exact Char.toNat_inj.mp same ▸ listed

theorem toNat_ofNat_of_valid {code : Nat} (valid : code.isValidChar)
    : (Char.ofNat code).toNat = code := by
  rw [Char.ofNat, dif_pos valid]
  rfl

/-- Bytes of ASCII are the text of the characters that they number. -/
theorem utf8_ofList_of_ascii {bytes : Bytes} (ascii : ∀ b ∈ bytes, b < 0x80)
    : utf8 (String.ofList (bytes.map fun b => Char.ofNat b.toNat)) = bytes := by
  rw [utf8_eq_flatMap, String.toList_ofList]
  induction bytes with
  | nil => rfl
  | cons b rest ih =>
      have small : b.toNat < 0x80 := ascii b List.mem_cons_self
      have single : String.utf8EncodeChar (Char.ofNat b.toNat) = [b] := by
        have code : (Char.ofNat b.toNat).val.toNat = b.toNat :=
          toNat_ofNat_of_valid (.inl (by omega))
        simp [String.utf8EncodeChar, code, Nat.le_of_lt_succ small]
      rw [List.map_cons, List.flatMap_cons, single,
        ih fun later member => ascii later (List.mem_cons_of_mem _ member)]
      rfl

/-- A text of ASCII has one byte for each character. -/
theorem utf8_of_ascii {s : String} (ascii : ∀ c ∈ s.toList, c.toNat < 0x80)
    : utf8 s = s.toList.map fun c => c.toNat.toUInt8 := by
  rw [utf8_eq_flatMap]
  generalize s.toList = cs at ascii ⊢
  induction cs with
  | nil => rfl
  | cons c rest ih =>
      have single : String.utf8EncodeChar c = [c.toNat.toUInt8] := by
        simp [String.utf8EncodeChar, Nat.le_of_lt_succ (ascii c List.mem_cons_self)]
      rw [List.flatMap_cons, List.map_cons, single,
        ih fun later member => ascii later (List.mem_cons_of_mem _ member)]
      rfl

end WebHarvest.Text
