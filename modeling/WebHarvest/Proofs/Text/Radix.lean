import Mathlib.Data.List.GetD
import Mathlib.Data.List.Induction
import Mathlib.Data.List.Nodup
import WebHarvest.Proofs.ReadList
import WebHarvest.Text.Radix

/-! Regrouping the bits of bytes into symbols loses nothing: a text of symbols is read back as the
bytes that it was written for, in each scheme whose blocks hold as many bits either way.
-/

namespace WebHarvest.Text.Radix

-----------------------------------------------------------------------------------------
-- Digits and the number they make
-----------------------------------------------------------------------------------------

theorem length_digits (base count n : Nat) : (digits base count n).length = count := by
  induction count generalizing n with
  | zero => rfl
  | succ count ih => rw [digits, List.length_append, ih, List.length_singleton]

theorem digits_lt {base : Nat} (positive : 0 < base) {count n : Nat}
    : ∀ digit ∈ digits base count n, digit < base := by
  induction count generalizing n with
  | zero => simp [digits]
  | succ count ih =>
      intro digit member
      rcases List.mem_append.mp member with earlier | last
      · exact ih digit earlier
      · rw [List.mem_singleton.mp last]
        exact Nat.mod_lt n positive

theorem number_concat (base : Nat) (ds : List Nat) (d : Nat)
    : number base (ds ++ [d]) = number base ds * base + d := by
  rw [number, List.foldl_append]
  rfl

/-- The lowest digits of a number make that number if there are enough of them, by induction on how
many there are.
-/
theorem number_digits {base count n : Nat} (fits : n < Nat.pow base count)
    : number base (digits base count n) = n := by
  induction count generalizing n with
  | zero => exact (Nat.lt_one_iff.mp fits).symm
  | succ count ih =>
      have fewer : n / base < Nat.pow base count :=
        Nat.div_lt_of_lt_mul (Nat.mul_comm _ base ▸ fits)
      rw [digits, number_concat, ih fewer, Nat.mul_comm]
      exact Nat.div_add_mod n base

/-- Digits below the base make a number that has as many digits at most, and these digits, by
induction from the last one.
-/
theorem digits_number {base : Nat} {ds : List Nat} (small : ∀ d ∈ ds, d < base)
    : number base ds < Nat.pow base ds.length ∧ digits base ds.length (number base ds) = ds := by
  induction ds using List.reverseRecOn with
  | nil => exact ⟨Nat.one_pos, rfl⟩
  | append_singleton ds d ih =>
      obtain ⟨fits, same⟩ := ih fun other member => small other (List.mem_append_left _ member)
      have last : d < base := small d (by simp)
      have positive : 0 < base := Nat.zero_lt_of_lt last
      have quotient : (number base ds * base + d) / base = number base ds := by
        rw [Nat.mul_comm, Nat.mul_add_div positive, Nat.div_eq_of_lt last, Nat.add_zero]
      have remainder : (number base ds * base + d) % base = d := by
        rw [Nat.mul_comm, Nat.mul_add_mod, Nat.mod_eq_of_lt last]
      rw [number_concat, List.length_append, List.length_singleton]
      constructor
      · calc
          number base ds * base + d < number base ds * base + base := Nat.add_lt_add_left last _
          _ = (number base ds + 1) * base := (Nat.succ_mul _ _).symm
          _ ≤ Nat.pow base ds.length * base := Nat.mul_le_mul_right base fits
          _ = Nat.pow base (ds.length + 1) := rfl
      · rw [digits, quotient, remainder, same]

-----------------------------------------------------------------------------------------
-- Pieces
-----------------------------------------------------------------------------------------

/-- The pieces of a list make that list, and each has at least one element and not too many. -/
theorem pieces_spec {α : Type} (size : Nat) (xs : List α)
    : (pieces size xs).flatten = xs
      ∧ ∀ piece ∈ pieces size xs, piece ≠ [] ∧ piece.length ≤ size + 1 := by
  fun_induction pieces size xs with
  | case1 => simp
  | case2 x xs ih =>
      obtain ⟨whole, bounded⟩ := ih
      constructor
      · rw [List.flatten_cons, whole, List.cons_append, List.take_append_drop]
      · intro piece member
        rcases List.mem_cons.mp member with rfl | later
        · refine ⟨List.cons_ne_nil _ _, Nat.succ_le_succ ?_⟩
          exact (List.length_take_le size xs)
        · exact bounded piece later

/-- A block of the full size in front is the first piece. -/
theorem pieces_append {α : Type} {size : Nat} {block rest : List α}
    (full : block.length = size + 1)
    : pieces size (block ++ rest) = block :: pieces size rest := by
  obtain ⟨x, xs, rfl⟩ := List.exists_cons_of_length_eq_add_one full
  have length : xs.length = size := Nat.succ.inj full
  rw [List.cons_append, pieces, List.take_left' length, List.drop_left' length]

/-- Blocks of the full size that stand one behind the other are told apart, by induction on the
blocks.
-/
theorem pieces_flatten {α : Type} {size : Nat} {blocks : List (List α)}
    (full : ∀ block ∈ blocks, block.length = size + 1)
    : pieces size blocks.flatten = blocks := by
  induction blocks with
  | nil => rw [List.flatten_nil, pieces]
  | cons block blocks ih =>
      obtain ⟨length, others⟩ := List.forall_mem_cons.mp full
      rw [List.flatten_cons, pieces_append length, ih others]

-----------------------------------------------------------------------------------------
-- Schemes
-----------------------------------------------------------------------------------------

namespace Scheme

/-- A scheme in which reading undoes writing: there is one symbol for each value, none of them is
the padding sign, and a block holds as many bits by its bytes as by its symbols.
-/
structure IsSound (scheme : Scheme) : Prop where
  nonempty : 0 < scheme.symbolBits ∧ 0 < scheme.blockBytes
  narrow : scheme.symbolBits ≤ 8
  unique : scheme.symbols.Nodup
  complete : scheme.symbols.length = Nat.pow 2 scheme.symbolBits
  unpadded : padding ∉ scheme.symbols
  balanced : scheme.symbolBits * scheme.blockSymbols = 8 * scheme.blockBytes

variable {scheme : Scheme}

/-- A value is read from its symbol, which is not the padding sign. -/
theorem IsSound.value?_symbol (sound : scheme.IsSound) {value : Nat}
    (small : value < Nat.pow 2 scheme.symbolBits)
    : scheme.value? (scheme.symbol value) = some value ∧ scheme.symbol value ≠ padding := by
  have inRange : value < scheme.symbols.length := sound.complete ▸ small
  have symbol : scheme.symbol value = scheme.symbols[value] := by
    rw [Scheme.symbol, List.getD_eq_getElem _ _ inRange]
  rw [symbol]
  constructor
  · rw [Scheme.value?, List.idxOf?, List.findIdx?_eq_some_iff_getElem]
    refine ⟨inRange, beq_self_eq_true _, ?_⟩
    intro earlier before same
    have same := sound.unique.getElem_inj_iff.mp (eq_of_beq same)
    omega
  · intro same
    exact sound.unpadded (same ▸ List.getElem_mem inRange)

/-- A symbol that has a value is the symbol of that value. -/
theorem IsSound.symbol_of_value? (sound : scheme.IsSound) {c : Char} {value : Nat}
    (found : scheme.value? c = some value)
    : value < Nat.pow 2 scheme.symbolBits ∧ scheme.symbol value = c := by
  rw [value?, List.idxOf?, List.findIdx?_eq_some_iff_getElem] at found
  obtain ⟨inRange, same, -⟩ := found
  rw [← sound.complete]
  refine ⟨inRange, ?_⟩
  rw [symbol, List.getD_eq_getElem _ _ inRange]
  exact eq_of_beq same

/-- The symbols for some bytes are as few as can hold them, fit into a block with them, and have
less than a symbol's worth of bits to spare.
-/
theorem IsSound.symbolsFor_spec (sound : scheme.IsSound) {count : Nat}
    (bounded : count ≤ scheme.blockBytes)
    : scheme.symbolBits * scheme.symbolsFor count = 8 * count + scheme.spareBits count
      ∧ scheme.spareBits count < scheme.symbolBits
      ∧ scheme.symbolsFor count ≤ scheme.blockSymbols := by
  obtain ⟨positive, -⟩ := sound.nonempty
  have least := Nat.div_add_mod (8 * count + scheme.symbolBits - 1) scheme.symbolBits
  have rest := Nat.mod_lt (8 * count + scheme.symbolBits - 1) positive
  have spare : scheme.spareBits count
      = scheme.symbolBits * scheme.symbolsFor count - 8 * count :=
    rfl
  have symbols : scheme.symbolsFor count
      = (8 * count + scheme.symbolBits - 1) / scheme.symbolBits :=
    rfl
  rw [← symbols] at least
  refine ⟨by omega, by omega, ?_⟩
  have fewer : scheme.symbolBits * scheme.symbolsFor count
      < scheme.symbolBits * (scheme.blockSymbols + 1) := by
    have balanced := sound.balanced
    rw [Nat.mul_succ]
    omega
  exact Nat.le_of_lt_succ (Nat.lt_of_mul_lt_mul_left fewer)

/-- A block has as many symbols as its scheme says, those of the padding included. -/
theorem IsSound.length_encodeBlock (sound : scheme.IsSound) {bytes : Bytes}
    (bounded : bytes.length ≤ scheme.blockBytes)
    : (scheme.encodeBlock bytes).length = scheme.blockSymbols := by
  obtain ⟨-, -, fits⟩ := sound.symbolsFor_spec bounded
  rw [encodeBlock, List.length_append, List.length_map, length_digits, List.length_replicate]
  omega

/-- Bytes are the digits of a number in base 256. -/
theorem digits_number_bytes (bytes : Bytes)
    : number 256 (bytes.map UInt8.toNat) < Nat.pow 2 (8 * bytes.length)
      ∧ (digits 256 bytes.length (number 256 (bytes.map UInt8.toNat))).map UInt8.ofNat
        = bytes := by
  have small : ∀ d ∈ bytes.map UInt8.toNat, d < 256 := by
    intro d member
    obtain ⟨byte, -, rfl⟩ := List.mem_map.mp member
    exact byte.toNat_lt
  obtain ⟨fits, same⟩ := digits_number small
  rw [List.length_map] at fits same
  refine ⟨?_, ?_⟩
  · exact Nat.lt_of_lt_of_eq fits (Nat.pow_mul 2 8 bytes.length).symm
  · rw [same, List.map_map]
    simp [Function.comp_def]

/-- The number of a block's bytes with the zero bits behind it that fill the last symbol. -/
def filled (scheme : Scheme) (bytes : Bytes) : Nat :=
  number 256 (bytes.map UInt8.toNat) * Nat.pow 2 (scheme.spareBits bytes.length)

/-- The values of a block's symbols, without the padding. -/
def values (scheme : Scheme) (bytes : Bytes) : List Nat :=
  digits (Nat.pow 2 scheme.symbolBits) (scheme.symbolsFor bytes.length) (scheme.filled bytes)

theorem values_lt (scheme : Scheme) (bytes : Bytes)
    : ∀ value ∈ scheme.values bytes, value < Nat.pow 2 scheme.symbolBits :=
  digits_lt (Nat.two_pow_pos _)

/-- The values make the number again, since the symbols have room for all bits. -/
theorem IsSound.number_values (sound : scheme.IsSound) {bytes : Bytes}
    (bounded : bytes.length ≤ scheme.blockBytes)
    : number (Nat.pow 2 scheme.symbolBits) (scheme.values bytes) = scheme.filled bytes := by
  obtain ⟨bits, -, -⟩ := sound.symbolsFor_spec bounded
  have room
      : Nat.pow 2 (8 * bytes.length) * Nat.pow 2 (scheme.spareBits bytes.length)
        = Nat.pow (Nat.pow 2 scheme.symbolBits) (scheme.symbolsFor bytes.length) :=
    (Nat.pow_add 2 _ _).symm.trans (bits ▸ Nat.pow_mul 2 _ _)
  apply number_digits
  rw [← room]
  exact Nat.mul_lt_mul_of_pos_right (digits_number_bytes bytes).1 (Nat.two_pow_pos _)

/-- Padding begins where symbols end, since no symbol is padding. -/
theorem IsSound.split_symbols (sound : scheme.IsSound) {values : List Nat}
    (small : ∀ value ∈ values, value < Nat.pow 2 scheme.symbolBits) (count : Nat)
    : (values.map scheme.symbol ++ List.replicate count padding).takeWhile (· != padding)
        = values.map scheme.symbol
      ∧ (values.map scheme.symbol ++ List.replicate count padding).dropWhile (· != padding)
        = List.replicate count padding := by
  have areData : ∀ c ∈ values.map scheme.symbol, (c != padding) = true := by
    intro c member
    obtain ⟨value, listed, rfl⟩ := List.mem_map.mp member
    simpa using (sound.value?_symbol (small value listed)).2
  constructor
  · rw [List.takeWhile_append_of_pos areData, List.takeWhile_replicate]
    simp
  · rw [List.dropWhile_append_of_pos areData, List.dropWhile_replicate]
    simp

/-- The symbols of some values, filled up to a block with padding. -/
def block (scheme : Scheme) (values : List Nat) : List Char :=
  values.map scheme.symbol ++ List.replicate (scheme.blockSymbols - values.length) padding

/-- Values whose symbols make a block. -/
structure Fits (scheme : Scheme) (values : List Nat) : Prop where
  small : ∀ value ∈ values, value < Nat.pow 2 scheme.symbolBits
  present : 0 < values.length
  few : values.length ≤ scheme.blockSymbols

/-- A block of symbols is read if they hold a whole number of bytes, less than a symbol's worth of
bits to spare, and zeros only in these.
-/
theorem IsSound.decodeBlock?_block (sound : scheme.IsSound) {values : List Nat}
    (fits : scheme.Fits values)
    : let count := scheme.symbolBits * values.length / 8
      let spare := scheme.symbolBits * values.length % 8
      let n := number (Nat.pow 2 scheme.symbolBits) values
      scheme.decodeBlock? (scheme.block values)
      = if spare < scheme.symbolBits then
          if n % Nat.pow 2 spare == 0 then
            some ((digits 256 count (n / Nat.pow 2 spare)).map UInt8.ofNat)
          else none
        else none := by
  intro count spare n
  obtain ⟨data, fill⟩ := sound.split_symbols fits.small (scheme.blockSymbols - values.length)
  have read : (values.map scheme.symbol).mapM scheme.value? = some values :=
    mapM_map fun value listed => (sound.value?_symbol (fits.small value listed)).1
  have length : (scheme.block values).length = scheme.blockSymbols := by
    rw [block, List.length_append, List.length_map, List.length_replicate]
    exact Nat.add_sub_cancel' fits.few
  have nonempty : (values.map scheme.symbol).isEmpty = false := by
    rw [← Bool.not_eq_true, List.isEmpty_iff, List.map_eq_nil_iff, ← List.length_eq_zero_iff]
    exact Nat.ne_of_gt fits.present
  have whole
      : ((scheme.block values).length == scheme.blockSymbols
          && (List.replicate (scheme.blockSymbols - values.length) padding).all (· == padding)
          && !(values.map scheme.symbol).isEmpty
          && decide (spare < scheme.symbolBits))
        = decide (spare < scheme.symbolBits) := by
    simp [length, nonempty]
  unfold decodeBlock?
  rw [block] at whole ⊢
  simp only [data, fill, List.length_map, Option.bind_eq_bind, read, Option.bind_some]
  rw [whole]
  simp only [decide_eq_true_eq]
  rfl

/-- A block that is read is one of symbols. -/
theorem IsSound.exists_block (sound : scheme.IsSound) {symbols : List Char} {bytes : Bytes}
    (read : scheme.decodeBlock? symbols = some bytes)
    : ∃ values, symbols = scheme.block values ∧ scheme.Fits values := by
  unfold decodeBlock? at read
  dsimp only at read
  split at read
  · rename_i whole
    simp only [Bool.and_eq_true, beq_iff_eq, Bool.not_eq_true', List.isEmpty_eq_false_iff] at whole
    obtain ⟨⟨⟨length, filled⟩, present⟩, -⟩ := whole
    rw [Option.bind_eq_bind, Option.bind_eq_some_iff] at read
    obtain ⟨values, valued, -⟩ := read
    have data := eq_map_of_mapM valued fun c value found => (sound.symbol_of_value? found).2
    have small : ∀ value ∈ values, value < Nat.pow 2 scheme.symbolBits := by
      intro value member
      obtain ⟨c, -, found⟩ := exists_of_mem_mapM valued value member
      exact (sound.symbol_of_value? found).1
    have fill : symbols.dropWhile (· != padding) = List.replicate _ padding :=
      List.eq_replicate_of_mem fun c member => by
        simpa using List.all_eq_true.mp filled c member
    have count : (symbols.takeWhile (· != padding)).length = values.length := by
      rw [data, List.length_map]
    have parts := List.takeWhile_append_dropWhile (p := (· != padding)) (l := symbols)
    have lengths := congrArg List.length parts
    rw [List.length_append, count, length] at lengths
    refine ⟨values, ?_, small, ?_, by omega⟩
    · rw [block, ← lengths, Nat.add_sub_cancel_left, ← data, ← fill, parts]
    · rw [← count]
      exact List.length_pos_iff.mpr present
  · cases read

/-- The bytes of a block follow from the number that its symbols make. -/
theorem IsSound.decodeBlock?_eq_some_iff (sound : scheme.IsSound) {symbols : List Char}
    {bytes : Bytes}
    : scheme.decodeBlock? symbols = some bytes
      ↔ ∃ values n,
          symbols = scheme.block values
          ∧ scheme.Fits values
          ∧ scheme.symbolBits * values.length % 8 < scheme.symbolBits
          ∧ number (Nat.pow 2 scheme.symbolBits) values
            = n * Nat.pow 2 (scheme.symbolBits * values.length % 8)
          ∧ bytes = (digits 256 (scheme.symbolBits * values.length / 8) n).map UInt8.ofNat := by
  constructor
  · intro read
    obtain ⟨values, rfl, fits⟩ := sound.exists_block read
    rw [sound.decodeBlock?_block fits] at read
    split at read
    · rename_i spared
      split at read
      · rename_i zeros
        cases read
        have made := Nat.div_mul_cancel (Nat.dvd_of_mod_eq_zero (beq_iff_eq.mp zeros))
        exact ⟨values, _, rfl, fits, spared, made.symm, rfl⟩
      · cases read
    · cases read
  · rintro ⟨values, n, rfl, fits, spared, made, rfl⟩
    have cancel (spare : Nat) : n * Nat.pow 2 spare / Nat.pow 2 spare = n :=
      Nat.mul_div_cancel n (Nat.two_pow_pos spare)
    rw [sound.decodeBlock?_block fits, if_pos spared, made, cancel, Nat.mul_mod_left]
    exact if_pos rfl

/-- A block is read back: its symbols make the number of its bytes with zero bits behind it. -/
theorem IsSound.decodeBlock?_encodeBlock (sound : scheme.IsSound) {bytes : Bytes}
    (present : bytes ≠ []) (bounded : bytes.length ≤ scheme.blockBytes)
    : scheme.decodeBlock? (scheme.encodeBlock bytes) = some bytes := by
  obtain ⟨bits, spared, fits⟩ := sound.symbolsFor_spec bounded
  obtain ⟨-, readsBack⟩ := digits_number_bytes bytes
  have narrow := sound.narrow
  have positive : 0 < bytes.length := List.length_pos_iff.mpr present
  have count : (scheme.values bytes).length = scheme.symbolsFor bytes.length := by
    rw [values, length_digits]
  have nonempty : 0 < scheme.symbolsFor bytes.length := by
    rw [Nat.pos_iff_ne_zero]
    rintro none
    rw [none, Nat.mul_zero] at bits
    omega
  have inBytes : (8 * bytes.length + scheme.spareBits bytes.length) / 8 = bytes.length := by omega
  have left
      : (8 * bytes.length + scheme.spareBits bytes.length) % 8 = scheme.spareBits bytes.length := by
    omega
  rw [sound.decodeBlock?_eq_some_iff]
  refine ⟨scheme.values bytes, number 256 (bytes.map UInt8.toNat), ?_,
    ⟨scheme.values_lt bytes, ?_, ?_⟩, ?_⟩
  · rw [block, count]
    rfl
  · rw [count]
    exact nonempty
  · rw [count]
    exact fits
  · rw [count, bits, inBytes, left, sound.number_values bounded]
    exact ⟨spared, rfl, readsBack.symm⟩

/-- What is encoded is read back, block by block. -/
theorem IsSound.decode?_encode (sound : scheme.IsSound) (bytes : Bytes)
    : scheme.decode? (scheme.encode bytes).toList = some bytes := by
  obtain ⟨-, nonempty⟩ := sound.nonempty
  obtain ⟨whole, bounded⟩ := pieces_spec (scheme.blockBytes - 1) bytes
  have fits (piece : Bytes) (member : piece ∈ pieces (scheme.blockBytes - 1) bytes)
      : piece.length ≤ scheme.blockBytes :=
    Nat.sub_add_cancel nonempty ▸ (bounded piece member).2
  have wide : scheme.blockSymbols - 1 + 1 = scheme.blockSymbols := by
    have balanced := sound.balanced
    have positive : 0 < scheme.blockSymbols := by
      rw [Nat.pos_iff_ne_zero]
      rintro none
      rw [none, Nat.mul_zero] at balanced
      omega
    omega
  have blocks
      : pieces (scheme.blockSymbols - 1)
          ((pieces (scheme.blockBytes - 1) bytes).map scheme.encodeBlock).flatten
        = (pieces (scheme.blockBytes - 1) bytes).map scheme.encodeBlock := by
    apply pieces_flatten
    intro block member
    obtain ⟨piece, listed, rfl⟩ := List.mem_map.mp member
    rw [wide]
    exact sound.length_encodeBlock (fits piece listed)
  rw [decode?, encode, String.toList_ofList, ← List.flatMap_def.symm, blocks,
    mapM_map fun piece listed =>
      sound.decodeBlock?_encodeBlock (bounded piece listed).1 (fits piece listed),
    Option.map_some, whole]

/-- A text of bytes is made of symbols and padding. -/
theorem mem_encode {bytes : Bytes} {c : Char} (member : c ∈ (scheme.encode bytes).toList)
    : c ∈ scheme.symbols ∨ c = padding := by
  rw [encode, String.toList_ofList, List.mem_flatMap] at member
  obtain ⟨piece, -, inside⟩ := member
  rcases List.mem_append.mp inside with data | fill
  · obtain ⟨value, -, rfl⟩ := List.mem_map.mp data
    rw [symbol]
    rcases Nat.lt_or_ge value scheme.symbols.length with inRange | beyond
    · rw [List.getD_eq_getElem _ _ inRange]
      exact .inl (List.getElem_mem inRange)
    · exact .inr (List.getD_eq_default _ _ beyond)
  · exact .inr (List.eq_of_mem_replicate fill)

/-- The texts of bytes tell them apart. -/
theorem IsSound.encode_inj (sound : scheme.IsSound) {bytes other : Bytes}
    (same : scheme.encode bytes = scheme.encode other)
    : bytes = other := by
  have read := sound.decode?_encode bytes
  rw [same, sound.decode?_encode] at read
  exact (Option.some.inj read).symm

end Scheme

/-- Reading undoes writing in base 32. -/
theorem isSound_base32 : base32.IsSound where
  nonempty := by decide
  narrow := by decide
  unique := by decide
  complete := by decide
  unpadded := by decide
  balanced := by decide

end WebHarvest.Text.Radix
