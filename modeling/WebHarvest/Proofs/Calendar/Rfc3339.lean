import WebHarvest.Calendar.Rfc3339
import WebHarvest.Proofs.Calendar.Date
import WebHarvest.Proofs.Text.Decimal

/-! Instants in the exchange form. What is read from the text of an instant is that instant,
whatever its year, with as many digits of a fraction as it needs, and also in a leap second.
-/

namespace WebHarvest.Calendar

open Text.Decimal (AreDigits padded)

/-- An instant of civil time: its year can be represented, and it has more nanoseconds than a second
only if it is in a leap second, which is the last one of a minute.
-/
def Timestamp.IsCivil (t : Timestamp) : Prop :=
  t.isRepresentable = true
  ∧ (t.nanos < secondNanos ∨ t.nanos < 2 * secondNanos ∧ t.seconds % 60 = 59)

/-- An instant is on its day, so many seconds after midnight. -/
theorem Timestamp.seconds_eq (t : Timestamp)
    : t.seconds = 86400 * (t.seconds / daySeconds) + t.secondOfDay := by
  have first : 0 ≤ t.seconds % daySeconds := Int.emod_nonneg _ (by decide)
  rw [secondOfDay, Int.toNat_of_nonneg first]
  exact (Int.mul_ediv_add_emod t.seconds daySeconds).symm

theorem Timestamp.secondOfDay_lt (t : Timestamp) : t.secondOfDay < 86400 := by
  have last : t.seconds % daySeconds < 86400 := Int.emod_lt_of_pos _ (by decide)
  unfold secondOfDay
  omega

namespace Rfc3339

-----------------------------------------------------------------------------------------
-- Numbers in a text
-----------------------------------------------------------------------------------------

theorem isBlank_of_digit {c : Char} (digit : Text.isAsciiDigit c = true)
    : Text.isBlank c = false := by
  simp only [Text.isAsciiDigit, Bool.and_eq_true, decide_eq_true_eq, Char.le_def] at digit
  obtain ⟨low, high⟩ := digit
  have low : 48 ≤ c.toNat := low
  have high : c.toNat ≤ 57 := high
  simp only [Text.isBlank, Bool.or_eq_false_iff, Bool.and_eq_false_iff, decide_eq_false_iff_not,
    beq_eq_false_iff_ne]
  omega

/-- A text that begins with a digit has no white space to cut off. -/
theorem trimStart_digits {digits : List Char} (areDigits : AreDigits digits)
    (present : digits ≠ []) (rest : List Char)
    : Text.trimStart (digits ++ rest) = digits ++ rest := by
  obtain ⟨c, others, rfl⟩ := List.exists_cons_of_ne_nil present
  have unblank := isBlank_of_digit (areDigits c List.mem_cons_self)
  simp [Text.trimStart, unblank]

/-- Digits are read up to the limit, or up to what is none. -/
theorem readNumber?_append {digits : List Char} (areDigits : AreDigits digits)
    (present : digits ≠ []) {limit : Nat} (within : digits.length ≤ limit) {rest : List Char}
    (ends : digits.length = limit ∨ ∀ c ∈ rest.head?, Text.isAsciiDigit c = false)
    : readNumber? limit (digits ++ rest) = some (Text.Decimal.value digits, rest) := by
  have run : ((digits ++ rest).take limit).takeWhile Text.isAsciiDigit = digits := by
    rw [List.take_append, List.take_of_length_le within]
    apply Text.Decimal.takeWhile_append_of_digits areDigits
    intro c first
    rw [List.head?_take] at first
    rcases ends with full | ends
    · simp [full] at first
    · split at first
      · cases first
      · exact ends c first
  simp [readNumber?, run, present]

theorem length_two {n : Nat} (small : n < 100) : (padded 2 n).toList.length = 2 :=
  Text.Decimal.length_padded (by decide) small

/-- A field of two digits is read, whatever comes behind it. -/
theorem readField?_two {low high n : Nat} (inRange : low ≤ n ∧ n ≤ high) (small : n < 100)
    (rest : List Char)
    : readField? low high ((padded 2 n).toList ++ rest) = some (n, rest) := by
  have areDigits := Text.Decimal.areDigits_padded 2 n
  have present := Text.Decimal.padded_ne_nil 2 n
  have length := length_two small
  rw [readField?, trimStart_digits areDigits present,
    readNumber?_append areDigits present (Nat.le_of_eq length) (.inl length),
    Text.Decimal.value_padded]
  simp [inRange]

theorem readMark?_mark {mark : Char} (unblank : Text.isBlank mark = false) (rest : List Char)
    : readMark? mark (mark :: rest) = some rest := by
  simp [readMark?, Text.trimStart, unblank]

-----------------------------------------------------------------------------------------
-- The date
-----------------------------------------------------------------------------------------

theorem readYear?_negative (cs : List Char)
    : readYear? ('-' :: cs)
      = (readNumber? cs.length cs).map fun (n, rest) => (-(n : Int), rest) := by
  cases read : readNumber? cs.length cs <;> simp [readYear?, Text.trimStart, Text.isBlank, read]

theorem readYear?_late (cs : List Char)
    : readYear? ('+' :: cs)
      = (readNumber? cs.length cs).map fun (n, rest) => ((n : Int), rest) := by
  cases read : readNumber? cs.length cs <;> simp [readYear?, Text.trimStart, Text.isBlank, read]

/-- A year without a sign has up to four digits. -/
theorem readYear?_digits {digits : List Char} (areDigits : AreDigits digits)
    (present : digits ≠ []) (rest : List Char)
    : readYear? (digits ++ rest)
      = (readNumber? 4 (digits ++ rest)).map fun (n, rest) => ((n : Int), rest) := by
  rw [readYear?, trimStart_digits areDigits present]
  obtain ⟨c, others, rfl⟩ := List.exists_cons_of_ne_nil present
  have digit := areDigits c List.mem_cons_self
  dsimp only
  split
  · rename_i same
    cases same
    exact absurd digit (by decide)
  · rename_i same
    cases same
    exact absurd digit (by decide)
  · cases readNumber? 4 (c :: others ++ rest) <;> rfl

/-- A year is read up to the hyphen behind it, by cases of its sign. -/
theorem readYear?_yearText (year : Int) (rest : List Char)
    : readYear? ((Timestamp.yearText year).toList ++ '-' :: rest) = some (year, '-' :: rest) := by
  have areDigits := Text.Decimal.areDigits_padded 4 year.natAbs
  have present := Text.Decimal.padded_ne_nil 4 year.natAbs
  have ends : ∀ c ∈ ('-' :: rest).head?, Text.isAsciiDigit c = false := by
    rintro c first
    cases first
    rfl
  have signed
      : readNumber? ((padded 4 year.natAbs).toList ++ '-' :: rest).length
          ((padded 4 year.natAbs).toList ++ '-' :: rest)
        = some (year.natAbs, '-' :: rest) := by
    rw [readNumber?_append areDigits present (by simp) (.inr ends), Text.Decimal.value_padded]
  unfold Timestamp.yearText
  dsimp only
  split
  · rename_i negative
    have value : -(year.natAbs : Int) = year := by omega
    rw [String.toList_append]
    change readYear? ('-' :: ((padded 4 year.natAbs).toList ++ '-' :: rest)) = _
    rw [readYear?_negative, signed, Option.map_some]
    dsimp only
    rw [value]
  · split
    · rename_i positive short
      have value : (year.natAbs : Int) = year := by omega
      have length : (padded 4 year.natAbs).toList.length = 4 :=
        Text.Decimal.length_padded (by decide) (show year.natAbs < 10000 by omega)
      rw [readYear?_digits areDigits present,
        readNumber?_append areDigits present (Nat.le_of_eq length) (.inl length),
        Text.Decimal.value_padded, Option.map_some]
      dsimp only
      rw [value]
    · rename_i positive long
      have value : (year.natAbs : Int) = year := by omega
      rw [String.toList_append]
      change readYear? ('+' :: ((padded 4 year.natAbs).toList ++ '-' :: rest)) = _
      rw [readYear?_late, signed, Option.map_some]
      dsimp only
      rw [value]

theorem monthLength_le (year : Int) (month : Nat) : monthLength year month ≤ 31 := by
  unfold monthLength
  split
  · split <;> decide
  · split <;> decide

/-- A date that the calendar has is read from its text. -/
theorem readDate?_append {date : Date} (valid : date.isValid = true)
    (representable : firstYear ≤ date.year ∧ date.year ≤ lastYear) (rest : List Char)
    : readDate?
        ((Timestamp.yearText date.year).toList
          ++ '-' :: ((padded 2 date.month).toList ++ '-' :: ((padded 2 date.day).toList ++ rest)))
      = some (date, rest) := by
  obtain ⟨year, month, day⟩ := date
  have inRange := valid
  simp only [Date.isValid, Bool.and_eq_true, decide_eq_true_eq] at inRange
  obtain ⟨⟨⟨firstMonth, lastMonth⟩, firstDay⟩, lastDay⟩ := inRange
  have lastDay : day ≤ 31 := Nat.le_trans lastDay (monthLength_le year month)
  have hyphen : Text.isBlank '-' = false := by decide
  rw [readDate?, readYear?_yearText]
  simp only [Option.bind_eq_bind, Option.bind_some, readMark?_mark hyphen,
    readField?_two ⟨firstMonth, lastMonth⟩ (by omega),
    readField?_two ⟨firstDay, lastDay⟩ (by omega), valid, representable]
  rfl

-----------------------------------------------------------------------------------------
-- The time of day
-----------------------------------------------------------------------------------------

/-- Digits behind a point count as the first ones of nine. -/
theorem readFraction?_padded {width n : Nat} (wide : 0 < width) (narrow : width ≤ 9)
    (fits : n < Nat.pow 10 width) (rest : List Char)
    : readFraction? ('.' :: ((padded width n).toList ++ 'Z' :: rest))
      = some (n * Nat.pow 10 (9 - width), 'Z' :: rest) := by
  have areDigits := Text.Decimal.areDigits_padded width n
  have length := Text.Decimal.length_padded wide fits
  have run
      : ((padded width n).toList ++ 'Z' :: rest).takeWhile Text.isAsciiDigit
        = (padded width n).toList := by
    apply Text.Decimal.takeWhile_append_of_digits areDigits
    rintro c first
    cases first
    rfl
  have kept : (padded width n).toList.take 9 = (padded width n).toList :=
    List.take_of_length_le (by omega)
  have present : (padded width n).toList.isEmpty = false := by
    simpa using Text.Decimal.padded_ne_nil width n
  rw [readFraction?, run, present, kept, if_neg Bool.false_ne_true, List.drop_left]
  dsimp only
  rw [Text.Decimal.value_padded, length]

/-- A fraction of a second is read from its text, by cases of how many digits it needs. -/
theorem readFraction?_fractionText {nanos : Nat} (small : nanos < secondNanos) (rest : List Char)
    : readFraction? ((Timestamp.fractionText nanos).toList ++ 'Z' :: rest)
      = some (nanos, 'Z' :: rest) := by
  unfold secondNanos at small
  unfold Timestamp.fractionText
  split
  · rename_i zero
    rw [eq_of_beq zero]
    rfl
  · split
    · rename_i millis
      obtain ⟨n, rfl⟩ := Nat.dvd_of_mod_eq_zero (eq_of_beq millis)
      rw [Nat.mul_div_cancel_left _ (by decide), String.toList_append, Nat.mul_comm]
      exact readFraction?_padded (by decide) (by decide) (show n < 1000 by omega) rest
    · split
      · rename_i micros
        obtain ⟨n, rfl⟩ := Nat.dvd_of_mod_eq_zero (eq_of_beq micros)
        rw [Nat.mul_div_cancel_left _ (by decide), String.toList_append, Nat.mul_comm]
        exact readFraction?_padded (by decide) (by decide) (show n < 1000000 by omega) rest
      · have read := readFraction?_padded (show 0 < 9 by decide) (Nat.le_refl 9) small rest
        rw [Nat.sub_self, show Nat.pow 10 0 = 1 from rfl, Nat.mul_one] at read
        rw [String.toList_append]
        exact read

/-- A time of day is read from its text. In a leap second the sixty-first second is written. -/
theorem readTime?_append {second nanos : Nat} (ofDay : second < 86400)
    (civil : nanos < secondNanos ∨ nanos < 2 * secondNanos ∧ second % 60 = 59) (rest : List Char)
    : readTime?
        ((padded 2 (second / 3600)).toList
          ++ ':' :: ((padded 2 (second / 60 % 60)).toList
          ++ ':' :: ((padded 2 (second % 60 + nanos / secondNanos)).toList
          ++ ((Timestamp.fractionText (nanos % secondNanos)).toList ++ 'Z' :: rest))))
      = some (second, nanos, 'Z' :: rest) := by
  have colon : Text.isBlank ':' = false := by decide
  have fraction :=
    readFraction?_fractionText (Nat.mod_lt nanos (show 0 < secondNanos by decide)) rest
  unfold secondNanos at *
  have written : second % 60 + nanos / 1000000000 ≤ 60 := by omega
  rw [readTime?, readField?_two ⟨Nat.zero_le _, by omega⟩ (by omega)]
  simp only [Option.bind_eq_bind, Option.bind_some, readMark?_mark colon]
  rw [readField?_two ⟨Nat.zero_le _, by omega⟩ (by omega)]
  simp only [Option.bind_some, readMark?_mark colon]
  rw [readField?_two ⟨Nat.zero_le _, written⟩ (by omega)]
  simp only [Option.bind_some, fraction]
  have seconds
      : (second / 3600 * 60 + second / 60 % 60) * 60
          + min (second % 60 + nanos / 1000000000) 59
        = second := by
    omega
  have leap
      : nanos % 1000000000
          + (if second % 60 + nanos / 1000000000 == 60 then secondNanos else 0)
        = nanos := by
    unfold secondNanos
    split
    · rename_i sixty
      have sixty := eq_of_beq sixty
      omega
    · rename_i other
      have other : second % 60 + nanos / 1000000000 ≠ 60 := by simpa using other
      omega
  rw [seconds, leap]
  rfl

-----------------------------------------------------------------------------------------
-- The whole instant
-----------------------------------------------------------------------------------------

theorem toList_rfc3339 (t : Timestamp)
    : t.rfc3339.toList
      = (Timestamp.yearText t.date.year).toList
        ++ '-' :: ((padded 2 t.date.month).toList
        ++ '-' :: ((padded 2 t.date.day).toList
        ++ 'T' :: ((padded 2 (t.secondOfDay / 3600)).toList
        ++ ':' :: ((padded 2 (t.secondOfDay / 60 % 60)).toList
        ++ ':' :: ((padded 2 (t.secondOfDay % 60 + t.nanos / secondNanos)).toList
        ++ ((Timestamp.fractionText (t.nanos % secondNanos)).toList ++ ['Z'])))))) := by
  simp [Timestamp.rfc3339, Timestamp.civilText]

/-- An instant is read from its text. -/
theorem read?_rfc3339 {t : Timestamp} (civil : t.IsCivil) : read? t.rfc3339 = some t := by
  obtain ⟨representable, civil⟩ := civil
  obtain ⟨valid, days⟩ : t.date.isValid = true ∧ t.date.toDays = t.seconds / daySeconds :=
    Date.ofDays_spec _
  have year : firstYear ≤ t.date.year ∧ t.date.year ≤ lastYear := by
    simpa [Timestamp.isRepresentable] using representable
  have whole := t.seconds_eq
  have civil
      : t.nanos < secondNanos ∨ t.nanos < 2 * secondNanos ∧ t.secondOfDay % 60 = 59 := by
    omega
  have seconds : t.date.toDays * daySeconds + t.secondOfDay - 0 = t.seconds := by
    rw [days, Int.mul_comm, Int.sub_zero]
    exact whole.symm
  have divider (rest : List Char) : readDivider? ('T' :: rest) = some rest := rfl
  have offset : readOffset? ['Z'] = some (0, []) := rfl
  rw [read?, toList_rfc3339, readDate?_append valid year]
  simp only [Option.bind_eq_bind, Option.bind_some, divider]
  rw [readTime?_append t.secondOfDay_lt civil]
  simp only [Option.bind_some, offset, seconds]
  rw [if_pos (by simp [Text.trimStart, representable])]

-----------------------------------------------------------------------------------------
-- What can be read
-----------------------------------------------------------------------------------------

/-- A fraction that was read is less than a second: no more than nine digits of it count. -/
theorem lt_of_readFraction? {cs rest : List Char} {nanos : Nat}
    (read : readFraction? cs = some (nanos, rest))
    : nanos < secondNanos := by
  unfold readFraction? at read
  split at read
  · rename_i others
    dsimp only at read
    split at read
    · cases read
    · simp only [Option.some.injEq, Prod.mk.injEq] at read
      obtain ⟨rfl, -⟩ := read
      let kept := (others.takeWhile Text.isAsciiDigit).take 9
      have short : kept.length ≤ 9 := List.length_take_le 9 _
      have fits : Text.Decimal.value kept < 10 ^ kept.length :=
        Text.Decimal.value_lt fun c member =>
          List.all_eq_true.mp List.all_takeWhile c (List.mem_of_mem_take member)
      calc
        Text.Decimal.value kept * 10 ^ (9 - kept.length)
            < 10 ^ kept.length * 10 ^ (9 - kept.length) :=
          Nat.mul_lt_mul_of_pos_right fits (Nat.pow_pos (by decide))
        _ = 10 ^ 9 := by rw [← Nat.pow_add, Nat.add_sub_cancel' short]
        _ = secondNanos := rfl
  · cases read
    decide

/-- A time of day that was read has a billion nanoseconds or more only in the last second of a
minute.
-/
theorem civil_of_readTime? {cs rest : List Char} {second nanos : Nat}
    (read : readTime? cs = some (second, nanos, rest))
    : nanos < secondNanos ∨ nanos < 2 * secondNanos ∧ second % 60 = 59 := by
  simp only [readTime?, Option.bind_eq_bind, Option.bind_eq_some_iff, Option.pure_def,
    Option.some.injEq, Prod.mk.injEq] at read
  obtain ⟨⟨hour, _⟩, -, _, -, ⟨minute, _⟩, -, _, -, ⟨written, _⟩, -, ⟨fraction, _⟩, fractional,
    rfl, rfl, -⟩ := read
  have small := lt_of_readFraction? fractional
  dsimp only
  split
  · rename_i sixty
    have sixty : written = 60 := eq_of_beq sixty
    right
    omega
  · left
    omega

/-- An offset that was read is a number of whole minutes. -/
theorem minutes_of_readOffset? {cs rest : List Char} {offset : Int}
    (read : readOffset? cs = some (offset, rest))
    : offset % 60 = 0 := by
  unfold readOffset? at read
  split at read
  · cases read
    rfl
  · cases read
    rfl
  · split at read
    · cases read
      rfl
    · simp only [Option.bind_eq_bind, Option.bind_eq_some_iff] at read
      obtain ⟨⟨sign, _⟩, -, ⟨hours, _⟩, -, ⟨minutes, _⟩, -, read⟩ := read
      split at read
      · simp only [Option.some.injEq, Prod.mk.injEq] at read
        obtain ⟨rfl, -⟩ := read
        have whole : (60 : Int) ∣ hours * 3600 + minutes * 60 := by omega
        exact Int.emod_eq_zero_of_dvd (Int.dvd_trans whole (Int.dvd_mul_left sign _))
      · cases read

/-- An instant that was read is one of civil time: an offset moves it by whole minutes, so that a
leap second stays the last one of a minute.
-/
theorem isCivil_of_read? {text : String} {t : Timestamp} (read : read? text = some t)
    : t.IsCivil := by
  simp only [read?, Option.bind_eq_bind, Option.bind_eq_some_iff] at read
  obtain ⟨⟨date, _⟩, -, _, -, ⟨second, nanos, _⟩, timed, ⟨offset, _⟩, moved, read⟩ := read
  split at read
  · rename_i accepted
    have representable := (Bool.and_eq_true_iff.mp accepted).2
    have civil := civil_of_readTime? timed
    have whole := minutes_of_readOffset? moved
    cases read
    refine ⟨representable, civil.imp_right ?_⟩
    rintro ⟨small, last⟩
    refine ⟨small, ?_⟩
    unfold daySeconds
    dsimp only at *
    omega
  · cases read

end Rfc3339

end WebHarvest.Calendar
