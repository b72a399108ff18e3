import WebHarvest.Json.Reader
import WebHarvest.Json.Writer
import WebHarvest.Proofs.Text.Decimal
import WebHarvest.Proofs.Text.Utf8

/-! Values that are written as they are: what is read from the text of such a value is that value.
Strings may hold any characters, since those that cannot stand for themselves are escaped; of
numbers only the whole ones are meant.
-/

namespace WebHarvest.Json

open Text (Glyph)
open Text.Decimal (AreDigits)

-----------------------------------------------------------------------------------------
-- Strings
-----------------------------------------------------------------------------------------

theorem hexValue?_digit {n : Nat} (small : n < 16)
    : Text.hexValue? (Text.Hex.digit n) = some n := by
  revert n
  decide

/-- An escaped control character is read as the four digits of its code. -/
theorem unit?_control {code : Nat} (control : code < 0x20)
    : unit? [some '0', some '0', some (Text.Hex.digit (code / 16)),
          some (Text.Hex.digit (code % 16))]
      = some code := by
  have high := hexValue?_digit (show code / 16 < 16 by omega)
  have low := hexValue?_digit (show code % 16 < 16 by omega)
  have zero : Text.hexValue? '0' = some 0 := by decide
  simp only [unit?, zero, high, low, Option.bind_eq_bind, Option.bind_some]
  congr 1
  omega

/-- A character that need not be escaped is read as itself. -/
theorem readUnits?_plain {c : Char} (unquoted : c ≠ '"') (unescaped : c ≠ '\\')
    (printable : ¬c.toNat < 0x20) (rest : List Glyph)
    : readUnits? (some c :: rest)
      = (readUnits? rest).map fun (units, left) => (c.toNat :: units, left) := by
  rw [readUnits?.eq_def]
  split
  · rename_i same
    cases same
  · rename_i same
    cases same
    exact absurd rfl unquoted
  · rename_i same
    cases same
    exact absurd rfl unescaped
  · rename_i same
    cases same
    exact absurd rfl unescaped
  · rename_i same
    cases same
    rw [if_neg (by simp [printable, unescaped])]
    cases readUnits? rest <;> rfl
  · rename_i same
    cases same

/-- A character that a backslash precedes is read as what it stands for then. -/
theorem readUnits?_escaped {e : Char} {code : Nat} (escape : simpleEscape? e = some code)
    (rest : List Glyph)
    : readUnits? (some '\\' :: some e :: rest)
      = (readUnits? rest).map fun (units, left) => (code :: units, left) := by
  rw [readUnits?.eq_def]
  split
  · rename_i same
    cases same
  · rename_i same
    cases same
  · rename_i same
    cases same
    cases escape
  · rename_i same
    cases same
    rw [escape]
    cases readUnits? rest <;> rfl
  · rename_i longer same
    cases same
    exact (longer e rest rfl rfl).elim
  · rename_i same
    cases same

/-- A character that four digits give the code of is read as that code. -/
theorem readUnits?_control {code : Nat} (control : code < 0x20) (rest : List Glyph)
    : readUnits?
          (some '\\' :: some 'u' :: some '0' :: some '0' :: some (Text.Hex.digit (code / 16))
            :: some (Text.Hex.digit (code % 16)) :: rest)
      = (readUnits? rest).map fun (units, left) => (code :: units, left) := by
  rw [readUnits?, unit?_control control]
  cases readUnits? rest <;> rfl

/-- A control character that has a short escape is read as its code. -/
theorem readUnits?_short {c e : Char} {code : Nat} (same : (c.toNat == code) = true)
    (escape : simpleEscape? e = some code) (rest : List Glyph)
    : readUnits? (some '\\' :: some e :: rest)
      = (readUnits? rest).map fun (units, left) => (c.toNat :: units, left) := by
  rw [eq_of_beq same]
  exact readUnits?_escaped escape rest

/-- A character is read from what is written for it, by cases of how it is escaped. -/
theorem readUnits?_escapeChar (c : Char) (rest : List Glyph)
    : readUnits? ((escapeChar c).map some ++ rest)
      = (readUnits? rest).map fun (units, left) => (c.toNat :: units, left) := by
  unfold escapeChar
  split
  · rename_i same
    rw [eq_of_beq same]
    exact readUnits?_escaped rfl rest
  split
  · rename_i same
    rw [eq_of_beq same]
    exact readUnits?_escaped rfl rest
  split
  · rename_i same
    exact readUnits?_short same rfl rest
  split
  · rename_i same
    exact readUnits?_short same rfl rest
  split
  · rename_i same
    exact readUnits?_short same rfl rest
  split
  · rename_i same
    exact readUnits?_short same rfl rest
  split
  · rename_i same
    exact readUnits?_short same rfl rest
  split
  · rename_i control
    exact readUnits?_control control rest
  · rename_i unquoted unescaped _ _ _ _ _ printable
    exact readUnits?_plain (by simpa using unquoted) (by simpa using unescaped) printable rest

/-- The characters of a string are read from what is written for them, up to the closing quote. -/
theorem readUnits?_quoted (cs : List Char) (rest : List Glyph)
    : readUnits? ((cs.flatMap escapeChar).map some ++ some '"' :: rest)
      = some (cs.map Char.toNat, rest) := by
  induction cs with
  | nil => rfl
  | cons c cs ih =>
      rw [List.flatMap_cons, List.map_append, List.append_assoc, readUnits?_escapeChar, ih]
      rfl

theorem not_isHighSurrogate (c : Char) : isHighSurrogate c.toNat = false := by
  have valid : c.toNat < 0xd800 ∨ 0xdfff < c.toNat ∧ c.toNat < 0x110000 := c.valid
  simp only [isHighSurrogate, Bool.and_eq_false_iff, decide_eq_false_iff_not]
  omega

/-- Characters are no surrogates, so that they join to themselves. -/
theorem joinUnits?_map_toNat (cs : List Char) : joinUnits? (cs.map Char.toNat) = some cs := by
  induction cs with
  | nil => rfl
  | cons c cs ih =>
      have valid : c.toNat.isValidChar := c.valid
      cases cs with
      | nil => simp [joinUnits?, valid, Char.ofNat_toNat]
      | cons next cs =>
          rw [List.map_cons, List.map_cons] at *
          simp [joinUnits?, valid, not_isHighSurrogate, Char.ofNat_toNat, ih]

/-- A string is read from what is written between its quotes. -/
theorem readString?_quoted (s : String) (rest : List Glyph)
    : readString? ((s.toList.flatMap escapeChar).map some ++ some '"' :: rest)
      = some (some s, rest) := by
  simp [readString?, readUnits?_quoted, joinUnits?_map_toNat, String.ofList_toList]

-----------------------------------------------------------------------------------------
-- Numbers
-----------------------------------------------------------------------------------------

/-- What comes behind a value: nothing, or what ends or divides the values of an array or object. -/
def IsBehind (rest : List Glyph) : Prop :=
  ∀ c ∈ rest.head?, c = some ',' ∨ c = some ']' ∨ c = some '\x7d'

/-- Digits are read up to what is none. -/
theorem readDigits?_append {digits : List Char} (areDigits : AreDigits digits)
    (present : digits ≠ []) {rest : List Glyph}
    (ends : ∀ c ∈ rest.head?, c.any Text.isAsciiDigit = false)
    : readDigits? (digits.map some ++ rest) = some (digits, rest) := by
  have all : ∀ glyph ∈ digits.map some, glyph.any Text.isAsciiDigit = true := by
    simpa [AreDigits] using areDigits
  have none : rest.takeWhile (·.any Text.isAsciiDigit) = [] := by
    cases rest with
    | nil => rfl
    | cons c rest => simp [ends c rfl]
  have same : rest.dropWhile (·.any Text.isAsciiDigit) = rest := by
    cases rest with
    | nil => rfl
    | cons c rest => simp [ends c rfl]
  simp [readDigits?, List.takeWhile_append_of_pos all, List.dropWhile_append_of_pos all, none,
    same, present]

/-- A number is written in digits, behind a sign if it is negative. -/
theorem toList_toString_int (i : Int)
    : (toString i).toList
      = if i < 0 then '-' :: Nat.toDigits 10 i.natAbs else Nat.toDigits 10 i.natAbs := by
  cases i with
  | ofNat n =>
      rw [if_neg (by simp)]
      exact Text.Decimal.toList_toString n
  | negSucc n =>
      rw [if_pos (Int.negSucc_lt_zero n)]
      have written : toString (Int.negSucc n) = "-" ++ (n + 1).repr := rfl
      rw [written, String.toList_append, Nat.toList_repr]
      rfl

/-- Neither a digit nor a point nor an exponent comes behind a value. -/
theorem IsBehind.ends {rest : List Glyph} (behind : IsBehind rest)
    : (∀ c ∈ rest.head?, c.any Text.isAsciiDigit = false)
      ∧ readFraction? rest = some (none, rest)
      ∧ readExponent? rest = some (none, rest) := by
  cases rest with
  | nil => exact ⟨by simp, rfl, rfl⟩
  | cons c rest =>
      rcases behind c rfl with rfl | rfl | rfl
      · exact ⟨by simp +decide, rfl, rfl⟩
      · exact ⟨by simp +decide, rfl, rfl⟩
      · exact ⟨by simp +decide, rfl, rfl⟩

/-- The digits of a number are read as such, since only zero begins with a zero. -/
theorem readWhole?_append (n : Nat) {rest : List Glyph} (behind : IsBehind rest)
    : readWhole? ((Nat.toDigits 10 n).map some ++ rest) = some (Nat.toDigits 10 n, rest) := by
  rw [readWhole?, readDigits?_append (Text.Decimal.areDigits_toDigits n) Nat.toDigits_ne_nil
    behind.ends.1, Option.bind_eq_bind, Option.bind_some]
  dsimp only
  split
  · rename_i digits
    cases n with
    | zero => simp at digits
    | succ n =>
        have first := Text.Decimal.head_toDigits_ne_zero (Nat.succ_pos n)
        rw [digits] at first
        exact absurd rfl first
  · rfl

/-- A whole number is read from its text. -/
theorem readNumber?_append (i : Int) {rest : List Glyph} (behind : IsBehind rest)
    : readNumber? ((toString i).toList.map some ++ rest) = some (.whole i, rest) := by
  obtain ⟨-, fraction, exponent⟩ := behind.ends
  rw [toList_toString_int]
  generalize sized : i.natAbs = n
  have whole := readWhole?_append n behind
  split
  · rename_i negative
    have size : n ≠ 0 := by omega
    have value : -(n : Int) = i := by omega
    simp [readNumber?, whole, fraction, exponent, Text.Decimal.value_toDigits, size, value]
  · rename_i positive
    have value : (n : Int) = i := by omega
    have unsigned : (Nat.toDigits 10 n).head? ≠ some '-' := by
      obtain ⟨c, others, digits, digit⟩ := Text.Decimal.exists_toDigits n
      rw [digits]
      rintro same
      cases same
      exact absurd digit (by decide)
    simp [readNumber?, unsigned, whole, fraction, exponent, Text.Decimal.value_toDigits, value]

-----------------------------------------------------------------------------------------
-- Values
-----------------------------------------------------------------------------------------

/-- A value that is written as it is: every string and key has a text, and every number is whole.
-/
inductive IsPlain : Json → Prop
  | null : IsPlain null
  | bool (value : Bool) : IsPlain (bool value)
  | int (value : Int) : IsPlain (int value)
  | text (value : String) : IsPlain (text value)
  | array {items : List Json} (plain : ∀ item ∈ items, IsPlain item) : IsPlain (array items)
  | object {members : List (Option String × Json)} (keyed : ∀ member ∈ members, member.1.isSome)
    (plain : ∀ member ∈ members, IsPlain member.2)
    : IsPlain (object members)

/-- Every value is written in some characters. -/
theorem renderChars_pos (value : Json) : 0 < (renderChars value).length := by
  cases value with
  | null => decide
  | bool value => cases value <;> decide
  | number value =>
      cases value with
      | whole i =>
          rw [renderChars, renderNumber, toList_toString_int]
          split
          · exact Nat.succ_pos _
          · exact Nat.length_toDigits_pos
      | scaled negative digits exponent =>
          rw [renderChars, renderNumber, List.length_append, List.length_cons]
          exact Nat.succ_pos _
  | string s => simp [renderChars, renderText, quote]
  | array items => simp [renderChars]
  | object members => simp [renderChars]

/-- A value is read from its text, whatever comes behind it, in no more steps than the text has
characters.
-/
def ReadsBack (value : Json) : Prop :=
  ∀ {fuel : Nat} {rest : List Glyph},
    IsBehind rest
    → (renderChars value).length ≤ fuel + 1
    → readValue? (fuel + 1) ((renderChars value).map some ++ rest) = some (value, rest)

theorem readsBack_bool (value : Bool) : ReadsBack (bool value) := by
  intro fuel rest _ _
  cases value <;> rfl

theorem map_renderText (key : String) (rest : List Glyph)
    : (renderText (some key)).map some ++ rest
      = some '"' :: ((key.toList.flatMap escapeChar).map some ++ some '"' :: rest) := by
  simp [renderText, quote]

/-- What begins with a quote is a string. -/
theorem readValue?_text (fuel : Nat) (others : List Glyph)
    : readValue? (fuel + 1) (some '"' :: others)
      = (readString? others).map fun (s, rest) => (string s, rest) :=
  rfl

theorem readsBack_text (s : String) : ReadsBack (text s) := by
  intro fuel rest _ _
  change readValue? (fuel + 1) ((renderText (some s)).map some ++ rest) = _
  rw [map_renderText, readValue?_text, readString?_quoted]
  rfl

/-- A number begins with its sign or a digit, which is no white space. -/
theorem exists_toString_int (i : Int)
    : ∃ c others,
        (toString i).toList = c :: others
        ∧ (c = '-' ∨ Text.isAsciiDigit c = true)
        ∧ isSpace c = false := by
  rw [toList_toString_int]
  split
  · exact ⟨_, _, rfl, .inl rfl, rfl⟩
  · obtain ⟨c, others, digits, digit⟩ := Text.Decimal.exists_toDigits i.natAbs
    refine ⟨c, others, digits, .inr digit, ?_⟩
    cases space : isSpace c with
    | false => rfl
    | true =>
        simp only [isSpace, Bool.or_eq_true, beq_iff_eq] at space
        rcases space with ((rfl | rfl) | rfl) | rfl <;> exact absurd digit (by decide)

/-- No other value begins like a number. -/
theorem readsBack_int (i : Int) : ReadsBack (int i) := by
  intro fuel rest behind _
  obtain ⟨c, others, written, first, unspaced⟩ := exists_toString_int i
  have number := readNumber?_append i behind
  have skipped
      : skipSpace (some c :: (others.map some ++ rest))
        = some c :: (others.map some ++ rest) := by
    simp [skipSpace, unspaced]
  change readValue? (fuel + 1) ((toString i).toList.map some ++ rest) = _
  rw [written, List.map_cons, List.cons_append] at number ⊢
  rw [readValue?, skipped]
  split
  case h_7 =>
    rw [number]
    rfl
  all_goals
    rename_i same
    cases same
    exact absurd first (by decide)

-----------------------------------------------------------------------------------------
-- Arrays and objects
-----------------------------------------------------------------------------------------

/-- Items are read up to the closing bracket, by induction on the items: each is followed by a comma
or by the bracket.
-/
theorem readItems?_append {items : List Json} (present : items ≠ [])
    (readsBack : ∀ item ∈ items, ReadsBack item) {fuel : Nat} {rest : List Glyph}
    (enough : (renderItems items).length ≤ fuel)
    : readItems? (fuel + 1) ((renderItems items).map some ++ some ']' :: rest)
      = some (items, rest) := by
  induction items generalizing fuel with
  | nil => exact absurd rfl present
  | cons item others ih =>
      obtain ⟨reads, readOthers⟩ := List.forall_mem_cons.mp readsBack
      have positive := renderChars_pos item
      cases others with
      | nil =>
          rw [renderItems] at enough ⊢
          obtain ⟨fuel, rfl⟩ : ∃ n, fuel = n + 1 := Nat.exists_eq_add_one.mpr (by omega)
          rw [readItems?, reads (by simp [IsBehind]) enough]
          rfl
      | cons next others =>
          rw [renderItems, List.length_append, List.length_cons] at enough
          obtain ⟨fuel, rfl⟩ : ∃ n, fuel = n + 1 := Nat.exists_eq_add_one.mpr (by omega)
          have more :=
            ih (List.cons_ne_nil _ _) readOthers
              (show (renderItems (next :: others)).length ≤ fuel by omega)
          rw [renderItems, List.map_append, List.map_cons, List.append_assoc, List.cons_append,
            readItems?, reads (by simp [IsBehind]) (by omega)]
          simp [skipSpace, isSpace, more]

theorem readLiteral?_quote (rest : List Glyph)
    : readLiteral? "\"" (skipSpace (some '"' :: rest)) = some rest :=
  rfl

theorem readLiteral?_colon (rest : List Glyph)
    : readLiteral? ":" (skipSpace (some ':' :: rest)) = some rest :=
  rfl

/-- A member that the closing brace follows is the last one. -/
theorem readMembers?_last (key : String) {value : Json} (reads : ReadsBack value) {fuel : Nat}
    (enough : (renderChars value).length ≤ fuel + 1) (rest : List Glyph)
    : readMembers? (fuel + 2)
          ((renderText (some key)).map some
            ++ some ':' :: ((renderChars value).map some ++ some '\x7d' :: rest))
      = some ([(some key, value)], rest) := by
  have valued := reads (show IsBehind (some '\x7d' :: rest) by simp [IsBehind]) enough
  rw [map_renderText, readMembers?]
  simp only [readLiteral?_quote, readString?_quoted, readLiteral?_colon, valued,
    Option.bind_eq_bind, Option.bind_some]
  rfl

/-- A member that a comma follows comes before others. -/
theorem readMembers?_next (key : String) {value : Json} (reads : ReadsBack value) {fuel : Nat}
    (enough : (renderChars value).length ≤ fuel + 1) {rest left : List Glyph}
    {others : List (Option String × Json)}
    (more : readMembers? (fuel + 1) rest = some (others, left))
    : readMembers? (fuel + 2)
          ((renderText (some key)).map some
            ++ some ':' :: ((renderChars value).map some ++ some ',' :: rest))
      = some ((some key, value) :: others, left) := by
  have valued := reads (show IsBehind (some ',' :: rest) by simp [IsBehind]) enough
  rw [map_renderText, readMembers?]
  simp only [readLiteral?_quote, readString?_quoted, readLiteral?_colon, valued,
    Option.bind_eq_bind, Option.bind_some]
  change (readMembers? (fuel + 1) rest).bind _ = _
  rw [more]
  rfl

/-- Members are read up to the closing brace, in the same way as items. -/
theorem readMembers?_append {members : List (Option String × Json)} (present : members ≠ [])
    (keyed : ∀ member ∈ members, member.1.isSome)
    (readsBack : ∀ member ∈ members, ReadsBack member.2) {fuel : Nat} {rest : List Glyph}
    (enough : (renderMembers members).length ≤ fuel)
    : readMembers? (fuel + 1) ((renderMembers members).map some ++ some '\x7d' :: rest)
      = some (members, rest) := by
  induction members generalizing fuel with
  | nil => exact absurd rfl present
  | cons member others ih =>
      obtain ⟨key, value⟩ := member
      obtain ⟨named, keyedOthers⟩ := List.forall_mem_cons.mp keyed
      obtain ⟨(reads : ReadsBack value), readOthers⟩ := List.forall_mem_cons.mp readsBack
      obtain ⟨key, rfl⟩ := Option.isSome_iff_exists.mp named
      cases others with
      | nil =>
          rw [renderMembers, List.length_append, List.length_cons] at enough
          obtain ⟨fuel, rfl⟩ : ∃ n, fuel = n + 1 := Nat.exists_eq_add_one.mpr (by omega)
          rw [renderMembers, List.map_append, List.map_cons, List.append_assoc, List.cons_append,
            readMembers?_last key reads (by omega) rest]
      | cons next others =>
          rw [renderMembers, List.length_append, List.length_append, List.length_cons,
            List.length_cons] at enough
          obtain ⟨fuel, rfl⟩ : ∃ n, fuel = n + 1 := Nat.exists_eq_add_one.mpr (by omega)
          have more :=
            ih (List.cons_ne_nil _ _) keyedOthers readOthers
              (show (renderMembers (next :: others)).length ≤ fuel by omega)
          rw [renderMembers, List.map_append, List.map_append, List.map_cons, List.map_cons,
            List.append_assoc, List.append_assoc, List.cons_append, List.cons_append,
            readMembers?_next key reads (by omega) more]

-----------------------------------------------------------------------------------------
-- Whole texts
-----------------------------------------------------------------------------------------

/-- A value that is written as it is begins neither with white space nor like the end of an array,
by cases of the value.
-/
theorem IsPlain.exists_renderChars {value : Json} (plain : value.IsPlain)
    : ∃ c others, renderChars value = c :: others ∧ isSpace c = false ∧ c ≠ ']' := by
  cases plain with
  | null => exact ⟨_, _, rfl, rfl, by decide⟩
  | bool value => cases value <;> exact ⟨_, _, rfl, rfl, by decide⟩
  | int value =>
      obtain ⟨c, others, written, first, unspaced⟩ := exists_toString_int value
      refine ⟨c, others, written, unspaced, ?_⟩
      rintro rfl
      exact absurd first (by decide)
  | text value => exact ⟨_, _, rfl, rfl, by decide⟩
  | array plain => exact ⟨_, _, rfl, rfl, by decide⟩
  | object keyed plain => exact ⟨_, _, rfl, rfl, by decide⟩

/-- An array that does not end at once has items. -/
theorem readValue?_array {c : Char} (unspaced : isSpace c = false) (unended : c ≠ ']')
    (fuel : Nat) (others : List Glyph)
    : readValue? (fuel + 1) (some '[' :: some c :: others)
      = (readItems? fuel (some c :: others)).map fun (items, rest) => (array items, rest) := by
  have opened : skipSpace (some '[' :: some c :: others) = some '[' :: some c :: others := rfl
  have within : skipSpace (some c :: others) = some c :: others := by simp [skipSpace, unspaced]
  simp only [readValue?, opened, within]
  split
  · rename_i same
    cases same
    exact absurd rfl unended
  · rfl

/-- An object that does not end at once has members. -/
theorem readValue?_object (fuel : Nat) (others : List Glyph)
    : readValue? (fuel + 1) (some '\x7b' :: some '"' :: others)
      = (readMembers? fuel (some '"' :: others)).map
          fun (members, rest) => (object members, rest) :=
  rfl

theorem exists_renderMembers {members : List (Option String × Json)} (present : members ≠ [])
    : ∃ others, renderMembers members = '"' :: others := by
  obtain ⟨⟨key, value⟩, rest, rfl⟩ := List.exists_cons_of_ne_nil present
  cases rest with
  | nil => exact ⟨_, rfl⟩
  | cons next rest => exact ⟨_, rfl⟩

theorem exists_renderItems {items : List Json} (present : items ≠ [])
    (plain : ∀ item ∈ items, item.IsPlain)
    : ∃ c others, renderItems items = c :: others ∧ isSpace c = false ∧ c ≠ ']' := by
  obtain ⟨item, rest, rfl⟩ := List.exists_cons_of_ne_nil present
  obtain ⟨c, others, written, first⟩ := (plain item List.mem_cons_self).exists_renderChars
  cases rest with
  | nil => exact ⟨c, others, written, first⟩
  | cons next rest =>
      refine ⟨c, others ++ ',' :: renderItems (next :: rest), ?_, first⟩
      rw [renderItems, written, List.cons_append]

/-- An array is read from its text if its items are. -/
theorem readsBack_array {items : List Json} (plain : ∀ item ∈ items, item.IsPlain)
    (readsBack : ∀ item ∈ items, ReadsBack item)
    : ReadsBack (array items) := by
  intro fuel rest _ enough
  by_cases present : items = []
  · subst present
    rfl
  · obtain ⟨c, others, written, unspaced, unended⟩ := exists_renderItems present plain
    rw [renderChars, List.length_append, List.length_cons, List.length_singleton] at enough
    obtain ⟨fuel, rfl⟩ : ∃ n, fuel = n + 1 := Nat.exists_eq_add_one.mpr (by omega)
    have read
        : readItems? (fuel + 1) ((renderItems items).map some ++ some ']' :: rest)
          = some (items, rest) :=
      readItems?_append present readsBack (by omega)
    have within
        : (renderChars (array items)).map some ++ rest
          = some '[' :: ((renderItems items).map some ++ some ']' :: rest) := by
      simp [renderChars]
    rw [within]
    rw [written, List.map_cons, List.cons_append] at read ⊢
    rw [readValue?_array unspaced unended, read]
    rfl

/-- An object is read from its text if the values of its members are. -/
theorem readsBack_object {members : List (Option String × Json)}
    (keyed : ∀ member ∈ members, member.1.isSome)
    (readsBack : ∀ member ∈ members, ReadsBack member.2)
    : ReadsBack (object members) := by
  intro fuel rest _ enough
  by_cases present : members = []
  · subst present
    rfl
  · obtain ⟨others, written⟩ := exists_renderMembers present
    rw [renderChars, List.length_append, List.length_cons, List.length_singleton] at enough
    obtain ⟨fuel, rfl⟩ : ∃ n, fuel = n + 1 := Nat.exists_eq_add_one.mpr (by omega)
    have read
        : readMembers? (fuel + 1) ((renderMembers members).map some ++ some '\x7d' :: rest)
          = some (members, rest) :=
      readMembers?_append present keyed readsBack (by omega)
    have within
        : (renderChars (object members)).map some ++ rest
          = some '\x7b' :: ((renderMembers members).map some ++ some '\x7d' :: rest) := by
      simp [renderChars]
    rw [within]
    rw [written, List.map_cons, List.cons_append] at read ⊢
    rw [readValue?_object, read]
    rfl

/-- A value that is written as it is is read from its text, by induction on the value. -/
theorem IsPlain.readsBack {value : Json} (plain : value.IsPlain) : value.ReadsBack := by
  induction plain with
  | null =>
      intro fuel rest _ _
      rfl
  | bool value => exact readsBack_bool value
  | int value => exact readsBack_int value
  | text value => exact readsBack_text value
  | array plain ih => exact readsBack_array plain ih
  | object keyed plain ih => exact readsBack_object keyed ih

/-- So it is from the whole of its text. -/
theorem IsPlain.read?_render {value : Json} (plain : value.IsPlain)
    : read? value.render = some value := by
  have whole := plain.readsBack (show IsBehind [] by simp [IsBehind]) (Nat.le_succ _)
  rw [List.append_nil] at whole
  simp [read?, readGlyphs?, render, whole, skipSpace]

/-- So it is from the bytes of its text. -/
theorem IsPlain.readBytes?_render {value : Json} (plain : value.IsPlain)
    : readBytes? (Text.utf8 value.render) = some value := by
  rw [readBytes?, Text.ofUtf8?_utf8]
  exact plain.read?_render

end WebHarvest.Json
