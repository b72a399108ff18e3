import WebHarvest.Proofs.Text.Radix

/-! Which texts of symbols are read, and as which bytes, told bit by bit. The symbols of a block
hold the bits of its bytes in order, and behind them zeros that are too few for another symbol.
-/

namespace WebHarvest.Text.Radix

-----------------------------------------------------------------------------------------
-- Bits
-----------------------------------------------------------------------------------------

/-- The bits of numbers that have `width` bits each, most significant first. -/
def bits (width : Nat) (ns : List Nat) : List Nat :=
  ns.flatMap (digits 2 width)

theorem length_bits (width : Nat) (ns : List Nat) : (bits width ns).length = width * ns.length := by
  rw [bits, List.length_flatMap]
  simp only [length_digits, List.map_const', List.sum_replicate_nat]
  exact Nat.mul_comm _ _

theorem bits_lt_two (width : Nat) (ns : List Nat) : ∀ bit ∈ bits width ns, bit < 2 := by
  intro bit member
  obtain ⟨n, -, inside⟩ := List.mem_flatMap.mp member
  exact digits_lt Nat.two_pos bit inside

theorem number_append (base : Nat) (ds es : List Nat)
    : number base (ds ++ es) = number base ds * Nat.pow base es.length + number base es := by
  induction es using List.reverseRecOn with
  | nil => simp [number]
  | append_singleton es e ih =>
      have power : Nat.pow base (es.length + 1) = Nat.pow base es.length * base := rfl
      rw [← List.append_assoc, number_concat, ih, number_concat, List.length_append,
        List.length_singleton, power, Nat.add_mul, Nat.mul_assoc, Nat.add_assoc]

theorem number_replicate_zero (base count : Nat) : number base (List.replicate count 0) = 0 := by
  induction count with
  | zero => rfl
  | succ count ih => rw [List.replicate_succ', number_concat, ih, Nat.zero_mul]

/-- Numbers stand one behind the other in base `2 ^ width` as their bits do, by induction from the
last one.
-/
theorem number_bits {width : Nat} {ns : List Nat} (small : ∀ n ∈ ns, n < Nat.pow 2 width)
    : number 2 (bits width ns) = number (Nat.pow 2 width) ns := by
  induction ns using List.reverseRecOn with
  | nil => rfl
  | append_singleton ns n ih =>
      have earlier := ih fun other member => small other (List.mem_append_left _ member)
      have last : bits width (ns ++ [n]) = bits width ns ++ digits 2 width n := by
        rw [bits, List.flatMap_append, List.flatMap_singleton]
        rfl
      rw [last, number_append, earlier, number_digits (small n (by simp)), length_digits,
        number_concat]

/-- Lists of as many bits are the same if they make the same number. -/
theorem eq_of_number_eq {ds es : List Nat} (small : ∀ d ∈ ds, d < 2) (small' : ∀ e ∈ es, e < 2)
    (length : ds.length = es.length) (same : number 2 ds = number 2 es)
    : ds = es := by
  rw [← (digits_number small).2, ← (digits_number small').2, length, same]

/-- Symbols hold the bits of some bytes with zeros behind them just if there are as many bits, and
the zeros multiply what the bytes are as one number.
-/
theorem bits_eq_append_zeros_iff {width : Nat} {values ns : List Nat} {spare : Nat}
    (small : ∀ value ∈ values, value < Nat.pow 2 width) (small' : ∀ n ∈ ns, n < 256)
    : bits width values = bits 8 ns ++ List.replicate spare 0
      ↔ width * values.length = 8 * ns.length + spare
        ∧ number (Nat.pow 2 width) values = number 256 ns * Nat.pow 2 spare := by
  have bytewise : number 2 (bits 8 ns) = number 256 ns := number_bits small'
  have numbers
      : number 2 (bits 8 ns ++ List.replicate spare 0) = number 256 ns * Nat.pow 2 spare := by
    rw [number_append, number_replicate_zero, List.length_replicate, bytewise, Nat.add_zero]
  have lengths
      : (bits 8 ns ++ List.replicate spare 0).length = 8 * ns.length + spare := by
    rw [List.length_append, length_bits, List.length_replicate]
  rw [← numbers, ← lengths, ← number_bits small, ← length_bits]
  constructor
  · intro same
    exact ⟨congrArg List.length same, congrArg (number 2) same⟩
  · rintro ⟨length, same⟩
    refine eq_of_number_eq (bits_lt_two _ _) (fun bit member => ?_) length same
    rcases List.mem_append.mp member with inside | behind
    · exact bits_lt_two _ _ bit inside
    · rw [List.eq_of_mem_replicate behind]
      exact Nat.two_pos

/-- So many bits make up a number of so many bytes, and those that are over. -/
theorem pow_pow_two (width count : Nat)
    : Nat.pow (Nat.pow 2 width) count
      = Nat.pow 256 (width * count / 8) * Nat.pow 2 (width * count % 8) :=
  calc
    Nat.pow (Nat.pow 2 width) count = Nat.pow 2 (width * count) := (Nat.pow_mul 2 _ _).symm
    _ = Nat.pow 2 (8 * (width * count / 8) + width * count % 8) := by rw [Nat.div_add_mod]
    _ = Nat.pow 2 (8 * (width * count / 8)) * Nat.pow 2 (width * count % 8) := Nat.pow_add 2 _ _
    _ = Nat.pow 256 (width * count / 8) * Nat.pow 2 (width * count % 8) :=
      congrArg (· * _) (Nat.pow_mul 2 8 _)

namespace Scheme

variable {scheme : Scheme}

/-- A block of symbols spells some bytes: its symbols hold the bits of the bytes and less than a
symbol's worth of zeros behind them, and it is filled up with padding.
-/
def SpellsBlock (scheme : Scheme) (symbols : List Char) (bytes : Bytes) : Prop :=
  ∃ values spare,
    symbols = scheme.block values
    ∧ scheme.Fits values
    ∧ bits scheme.symbolBits values
      = bits 8 (bytes.map UInt8.toNat) ++ List.replicate spare 0
    ∧ spare < scheme.symbolBits

/-- A block is read as the bytes that it spells. -/
theorem IsSound.decodeBlock?_eq_some_iff_spells (sound : scheme.IsSound) {symbols : List Char}
    {bytes : Bytes}
    : scheme.decodeBlock? symbols = some bytes ↔ scheme.SpellsBlock symbols bytes := by
  rw [sound.decodeBlock?_eq_some_iff]
  constructor
  · rintro ⟨values, n, whole, fits, spared, made, rfl⟩
    have below := (digits_number fits.small).1
    rw [made, pow_pow_two] at below
    have inBytes := Nat.lt_of_mul_lt_mul_right below
    have small
        : ∀ digit ∈ digits 256 (scheme.symbolBits * values.length / 8) n, digit < 256 :=
      digits_lt (by decide)
    have same
        : ((digits 256 (scheme.symbolBits * values.length / 8) n).map UInt8.ofNat).map UInt8.toNat
          = digits 256 (scheme.symbolBits * values.length / 8) n := by
      rw [List.map_map]
      refine (List.map_congr_left fun digit member => ?_).trans (List.map_id' _)
      exact UInt8.toNat_ofNat_of_lt' (small digit member)
    refine ⟨values, _, whole, fits, ?_, spared⟩
    rw [same, bits_eq_append_zeros_iff fits.small small, length_digits, number_digits inBytes]
    exact ⟨(Nat.div_add_mod _ 8).symm, made⟩
  · rintro ⟨values, spare, whole, fits, same, spared⟩
    have inBytes : ∀ n ∈ bytes.map UInt8.toNat, n < 256 := by
      intro n member
      obtain ⟨byte, -, rfl⟩ := List.mem_map.mp member
      exact byte.toNat_lt
    obtain ⟨lengths, numbers⟩ := (bits_eq_append_zeros_iff fits.small inBytes).mp same
    rw [List.length_map] at lengths
    have narrow := sound.narrow
    have count : scheme.symbolBits * values.length / 8 = bytes.length := by omega
    have left : scheme.symbolBits * values.length % 8 = spare := by omega
    refine ⟨values, _, whole, fits, by omega, left ▸ numbers, ?_⟩
    rw [count]
    exact (digits_number_bytes bytes).2.symm

/-- A text spells some bytes block by block, each of which may be filled up. -/
inductive Spells (scheme : Scheme) : List Char → Bytes → Prop
  | nothing : Spells scheme [] []
  | block {symbols rest : List Char} {bytes more : Bytes}
    (here : scheme.SpellsBlock symbols bytes) (later : Spells scheme rest more)
    : Spells scheme (symbols ++ rest) (bytes ++ more)

/-- A block that spells something is as long as the scheme says. -/
theorem length_of_spellsBlock {symbols : List Char} {bytes : Bytes}
    (spells : scheme.SpellsBlock symbols bytes)
    : symbols.length = scheme.blockSymbols ∧ 0 < scheme.blockSymbols := by
  obtain ⟨values, -, rfl, ⟨-, present, few⟩, -⟩ := spells
  rw [block, List.length_append, List.length_map, List.length_replicate]
  omega

/-- A text is read as the bytes that it spells. One direction follows the pieces that it is cut
into, the other the blocks that it is made of.
-/
theorem IsSound.decode?_eq_some_iff (sound : scheme.IsSound) {text : List Char} {bytes : Bytes}
    : scheme.decode? text = some bytes ↔ scheme.Spells text bytes := by
  rw [decode?, Option.map_eq_some_iff]
  constructor
  · rintro ⟨parts, read, rfl⟩
    fun_induction pieces (scheme.blockSymbols - 1) text generalizing parts with
    | case1 =>
        cases read
        exact .nothing
    | case2 c text ih =>
        rw [List.mapM_cons, Option.bind_eq_bind, Option.bind_eq_some_iff] at read
        obtain ⟨part, here, read⟩ := read
        rw [Option.bind_eq_bind, Option.bind_eq_some_iff] at read
        obtain ⟨others, later, same⟩ := read
        cases same
        have spells := Spells.block (sound.decodeBlock?_eq_some_iff_spells.mp here)
          (ih others later)
        rwa [List.cons_append, List.take_append_drop] at spells
  · intro spells
    induction spells with
    | nothing => exact ⟨[], by rw [pieces]; rfl, rfl⟩
    | block here later ih =>
        obtain ⟨parts, read, rfl⟩ := ih
        obtain ⟨length, positive⟩ := length_of_spellsBlock here
        rw [pieces_append (length.trans (Nat.sub_add_cancel positive).symm), List.mapM_cons,
          sound.decodeBlock?_eq_some_iff_spells.mpr here, read]
        exact ⟨_, rfl, List.flatten_cons⟩

end Scheme

/-- Padding may end a block that another one follows. -/
example : base32.decode? "MY======MZXQ====".toList = some [102, 102, 111] := by cbv

end WebHarvest.Text.Radix
