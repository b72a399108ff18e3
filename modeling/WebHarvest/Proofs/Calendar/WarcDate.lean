import Mathlib.Data.String.Basic
import WebHarvest.Proofs.Calendar.Days
import WebHarvest.Proofs.Calendar.Rfc3339
import WebHarvest.Proofs.Text.FixedWidth

/-! The dates of archive records. The date of an instant is the civil time of its second, rounded
down, so that it tells instants apart that are not of one second; in years of four digits dates are
all of one length and are ordered as the instants.
-/

namespace WebHarvest.Calendar

open Text.Decimal (AreDigits IsLaidOut IsNumeral Place laidOut padded value)

-----------------------------------------------------------------------------------------
-- Civil time
-----------------------------------------------------------------------------------------

/-- A day and the time of it to the second. -/
structure CivilTime where
  date : Date
  hour : Nat
  minute : Nat
  second : Nat

namespace CivilTime

variable {civil other : CivilTime} {seconds seconds' : Int}

/-- The civil time of a number of seconds since the start of 1970, in UTC. -/
def IsAt (civil : CivilTime) (seconds : Int) : Prop :=
  (civil.hour < 24 ∧ civil.minute < 60 ∧ civil.second < 60)
  ∧ ∃ days,
      civil.date.HasNumber days
      ∧ seconds = 86400 * days + 3600 * civil.hour + 60 * civil.minute + civil.second

/-- A year that has four digits. -/
def HasPlainYear (civil : CivilTime) : Prop :=
  0 ≤ civil.date.year ∧ civil.date.year ≤ 9999

/-- A year in digits: four of them, or more and a sign where four are too few. A negative year has
a sign and no fewer digits than four.
-/
inductive IsYear : Int → List Char → Prop
  | plain {n : Nat} {digits : List Char} (areDigits : AreDigits digits)
    (four : digits.length = 4) (denotes : value digits = n)
    : IsYear n digits
  | late {n : Nat} {digits : List Char} (large : 9999 < n) (numeral : IsNumeral 4 n digits)
    : IsYear n ('+' :: digits)
  | early {n : Nat} {digits : List Char} (positive : 0 < n) (numeral : IsNumeral 4 n digits)
    : IsYear (-n) ('-' :: digits)

/-- Where the numbers stand that follow the year. -/
def places : List Place :=
  [⟨2, '-'⟩, ⟨2, 'T'⟩, ⟨2, ':'⟩, ⟨2, ':'⟩, ⟨2, 'Z'⟩]

/-- The numbers that follow the year. -/
def numbers (civil : CivilTime) : List Nat :=
  [civil.date.month, civil.date.day, civil.hour, civil.minute, civil.second]

/-- A text of year, month, day, `T`, hour, minute, second and `Z`. In years of four digits this is
the strict form of RFC 3339 in UTC, without a fraction.
-/
def IsWritten (civil : CivilTime) (cs : List Char) : Prop :=
  ∃ year rest,
    cs = year ++ '-' :: rest
    ∧ IsYear civil.date.year year
    ∧ IsLaidOut places civil.numbers rest

theorem IsAt.hold (instant : civil.IsAt seconds)
    : List.Forall₂ Place.Holds places civil.numbers := by
  obtain ⟨⟨hour, minute, second⟩, days, ⟨valid, -⟩, -⟩ := instant
  obtain ⟨⟨-, lastMonth⟩, -, lastDay⟩ := Date.isValid_iff.mp valid
  have longest := Rfc3339.monthLength_le civil.date.year civil.date.month
  have two {n : Nat} {mark : Char} (small : n < 100) : Place.Holds ⟨2, mark⟩ n :=
    ⟨Nat.two_pos, small⟩
  exact .cons (two (by omega)) (.cons (two (by omega)) (.cons (two (by omega))
    (.cons (two (by omega)) (.cons (two (by omega)) .nil))))

/-- Civil times in years of four digits are ordered as their seconds: days by year, month and day of
the month, and times of one day by hour, minute and second.
-/
theorem IsAt.numbers_lt_iff (instant : civil.IsAt seconds) (instant' : other.IsAt seconds')
    (plain : civil.HasPlainYear) (plain' : other.HasPlainYear)
    : civil.date.year.toNat :: civil.numbers < other.date.year.toNat :: other.numbers
      ↔ seconds < seconds' := by
  obtain ⟨⟨hour, minute, second⟩, days, numbered, rfl⟩ := instant
  obtain ⟨⟨hour', minute', second'⟩, days', numbered', rfl⟩ := instant'
  have year
      : civil.date.year.toNat < other.date.year.toNat ↔ civil.date.year < other.date.year := by
    unfold HasPlainYear at plain plain'
    omega
  have sameYear
      : civil.date.year.toNat = other.date.year.toNat ↔ civil.date.year = other.date.year := by
    unfold HasPlainYear at plain plain'
    omega
  have time
      : [civil.hour, civil.minute, civil.second] < [other.hour, other.minute, other.second]
        ↔ 3600 * civil.hour + 60 * civil.minute + civil.second
          < 3600 * other.hour + 60 * other.minute + other.second := by
    simp only [List.cons_lt_cons_iff, List.not_lt_nil, and_false, or_false]
    omega
  calc civil.date.year.toNat :: civil.numbers < other.date.year.toNat :: other.numbers
    _ ↔ days < days'
          ∨ days = days'
            ∧ [civil.hour, civil.minute, civil.second]
              < [other.hour, other.minute, other.second] := by
      rw [numbered.lt_iff numbered', numbered.eq_iff numbered', Date.eq_iff, Date.IsBefore,
        numbers, numbers, List.cons_lt_cons_iff, List.cons_lt_cons_iff, List.cons_lt_cons_iff,
        year, sameYear]
      simp only [and_or_left, or_assoc, and_assoc]
    _ ↔ 86400 * days + 3600 * civil.hour + 60 * civil.minute + civil.second
          < 86400 * days' + 3600 * other.hour + 60 * other.minute + other.second := by
      rw [time]
      omega

end CivilTime

-----------------------------------------------------------------------------------------
-- The civil time of an instant, and its text
-----------------------------------------------------------------------------------------

namespace Timestamp

variable {t : Timestamp}

/-- The civil time of the second that an instant is in. -/
def civilTime (t : Timestamp) : CivilTime where
  date := t.date
  hour := t.secondOfDay / 3600
  minute := t.secondOfDay / 60 % 60
  second := t.secondOfDay % 60

theorem isAt_civilTime (t : Timestamp) : t.civilTime.IsAt t.seconds := by
  have ofDay := t.secondOfDay_lt
  have whole := t.seconds_eq
  refine ⟨?_, t.seconds / daySeconds, Date.hasNumber_iff.mpr rfl, ?_⟩
  · dsimp only [civilTime]
    omega
  · dsimp only [civilTime]
    omega

/-- A year is written with four digits, or with a sign, by cases of its size. -/
theorem isYear_yearText (year : Int) : CivilTime.IsYear year (yearText year).toList := by
  unfold yearText
  dsimp only
  split
  · rename_i negative
    have positive : 0 < year.natAbs := by omega
    have early := CivilTime.IsYear.early positive (Text.Decimal.isNumeral_padded positive 4)
    rw [show -(year.natAbs : Int) = year by omega] at early
    rw [String.toList_append]
    exact early
  · split
    · have fits : year.natAbs < Nat.pow 10 4 := show year.natAbs < 10000 by omega
      have plain :=
        CivilTime.IsYear.plain (Text.Decimal.areDigits_padded 4 year.natAbs)
          (Text.Decimal.length_padded (Nat.succ_pos 3) fits) (Text.Decimal.value_padded _ _)
      rw [show (year.natAbs : Int) = year by omega] at plain
      exact plain
    · have positive : 0 < year.natAbs := by omega
      have late :=
        CivilTime.IsYear.late (show 9999 < year.natAbs by omega)
          (Text.Decimal.isNumeral_padded positive 4)
      rw [show (year.natAbs : Int) = year by omega] at late
      rw [String.toList_append]
      exact late

/-- Fractions of a second and leap seconds apart, the two texts of an instant are the same. -/
theorem warcDate_eq_rfc3339 (whole : t.nanos < secondNanos)
    : t.warcDate = (⟨t.seconds, 0⟩ : Timestamp).rfc3339 := by
  have noLeap : t.nanos / secondNanos = 0 := Nat.div_eq_of_lt whole
  simp [warcDate, rfc3339, civilText, date, secondOfDay, fractionText, noLeap]

theorem toList_warcDate (whole : t.nanos < secondNanos)
    : t.warcDate.toList
      = (yearText t.date.year).toList ++ '-' :: laidOut CivilTime.places t.civilTime.numbers := by
  have noLeap : t.nanos / secondNanos = 0 := Nat.div_eq_of_lt whole
  simp [warcDate, civilText, noLeap, CivilTime.places, CivilTime.numbers, civilTime, laidOut]

/-- The date of an instant is its civil time, written. -/
theorem isWritten_warcDate (whole : t.nanos < secondNanos)
    : t.civilTime.IsWritten t.warcDate.toList :=
  ⟨_, _, toList_warcDate whole, isYear_yearText _,
    Text.Decimal.isLaidOut_laidOut t.isAt_civilTime.hold⟩

/-- The date of an instant is read as the second that it is in. -/
theorem read?_warcDate (representable : t.isRepresentable = true) (whole : t.nanos < secondNanos)
    : Rfc3339.read? t.warcDate = some ⟨t.seconds, 0⟩ := by
  rw [warcDate_eq_rfc3339 whole]
  exact Rfc3339.read?_rfc3339 ⟨representable, .inl (show 0 < secondNanos by decide)⟩

-----------------------------------------------------------------------------------------
-- Dates in years of four digits
-----------------------------------------------------------------------------------------

/-- Where the numbers of a date stand if its year has four digits. -/
def plainPlaces : List Place :=
  ⟨4, '-'⟩ :: CivilTime.places

/-- The numbers of a date if its year is not negative. -/
def plainNumbers (t : Timestamp) : List Nat :=
  t.date.year.toNat :: t.civilTime.numbers

theorem hold_plainNumbers (plain : t.civilTime.HasPlainYear)
    : List.Forall₂ Place.Holds plainPlaces t.plainNumbers := by
  obtain ⟨first, last⟩ := plain
  have fits : t.date.year.toNat < Nat.pow 10 4 := by
    change t.date.year ≤ 9999 at last
    have tenThousand : Nat.pow 10 4 = 10000 := rfl
    omega
  exact .cons ⟨Nat.succ_pos 3, fits⟩ t.isAt_civilTime.hold

theorem toList_warcDate_plain (plain : t.civilTime.HasPlainYear) (whole : t.nanos < secondNanos)
    : t.warcDate.toList = laidOut plainPlaces t.plainNumbers := by
  obtain ⟨first, last⟩ := plain
  change 0 ≤ t.date.year at first
  change t.date.year ≤ 9999 at last
  have year : yearText t.date.year = padded 4 t.date.year.toNat := by
    have size : t.date.year.natAbs = t.date.year.toNat := by omega
    simp only [yearText, size, if_neg (Int.not_lt.mpr first), if_pos last]
  rw [toList_warcDate whole, year]
  rfl

theorem length_warcDate (plain : t.civilTime.HasPlainYear) (whole : t.nanos < secondNanos)
    : t.warcDate.length = 20 := by
  rw [← String.length_toList, toList_warcDate_plain plain whole,
    Text.Decimal.length_laidOut (hold_plainNumbers plain)]
  rfl

/-- Dates are ordered as the seconds that they are of. -/
theorem warcDate_lt_iff {t t' : Timestamp} (plain : t.civilTime.HasPlainYear)
    (plain' : t'.civilTime.HasPlainYear) (whole : t.nanos < secondNanos)
    (whole' : t'.nanos < secondNanos)
    : t.warcDate < t'.warcDate ↔ t.seconds < t'.seconds := by
  rw [String.lt_iff_toList_lt, toList_warcDate_plain plain whole,
    toList_warcDate_plain plain' whole',
    Text.Decimal.laidOut_lt_iff (hold_plainNumbers plain) (hold_plainNumbers plain')]
  exact t.isAt_civilTime.numbers_lt_iff t'.isAt_civilTime plain plain'

-----------------------------------------------------------------------------------------
-- Dates of milliseconds
-----------------------------------------------------------------------------------------

theorem of_ofMillis? {millis : Int} (instant : ofMillis? millis = some t)
    : t.seconds = millis / 1000 ∧ t.nanos < secondNanos ∧ t.isRepresentable = true := by
  unfold ofMillis? at instant
  dsimp only at instant
  split at instant
  · rename_i representable
    cases instant
    refine ⟨rfl, ?_, representable⟩
    unfold secondNanos
    dsimp only
    omega
  · cases instant

theorem isRepresentable_iff
    : t.isRepresentable = true ↔ firstYear ≤ t.date.year ∧ t.date.year ≤ lastYear := by
  simp [isRepresentable]

/-- The instants that can be represented are those from New Year of the first year to the last
millisecond of the last year.
-/
theorem isSome_ofMillis?_iff (millis : Int)
    : (ofMillis? millis).isSome ↔ -8334601228800000 ≤ millis ∧ millis ≤ 8210266876799999 := by
  let t : Timestamp := ⟨millis / 1000, (millis % 1000).toNat * 1000000⟩
  have found : (ofMillis? millis).isSome ↔ t.isRepresentable = true := by
    simp [ofMillis?, t]
  obtain ⟨valid, number⟩ : t.date.isValid = true ∧ t.date.toDays = millis / 1000 / 86400 :=
    Date.ofDays_spec _
  have early := Date.year_lt_iff valid firstYear
  have late := Date.year_lt_iff valid (lastYear + 1)
  have firstDay : Date.toDays ⟨firstYear, 1, 1⟩ = -96465292 := by decide
  have lastDay : Date.toDays ⟨lastYear + 1, 1, 1⟩ = 95026237 := by decide
  rw [number, firstDay] at early
  rw [number, lastDay] at late
  rw [found, isRepresentable_iff]
  omega

/-- The date of an instant tells its second, rounded down. It is the civil time of that second, and
two dates are the same if their instants are of one second. A date is read back, and in years of
four digits dates have twenty characters and are ordered as their seconds.
-/
theorem warcDate_keepsSecond {millis millis' : Int} {t t' : Timestamp}
    (instant : ofMillis? millis = some t) (instant' : ofMillis? millis' = some t')
    : (t.civilTime.IsAt (millis / 1000) ∧ t.civilTime.IsWritten t.warcDate.toList)
      ∧ (t.warcDate = t'.warcDate ↔ millis / 1000 = millis' / 1000)
      ∧ Rfc3339.read? t.warcDate = some ⟨millis / 1000, 0⟩
      ∧ (t.civilTime.HasPlainYear → t.warcDate.length = 20)
      ∧ (t.civilTime.HasPlainYear
          → t'.civilTime.HasPlainYear
          → compare t.warcDate t'.warcDate = compare (millis / 1000) (millis' / 1000)) := by
  obtain ⟨second, whole, representable⟩ := of_ofMillis? instant
  obtain ⟨second', whole', representable'⟩ := of_ofMillis? instant'
  have read := read?_warcDate representable whole
  have read' := read?_warcDate representable' whole'
  have same : t.warcDate = t'.warcDate ↔ t.seconds = t'.seconds := by
    constructor
    · intro same
      rw [same, read', Option.some.injEq, Timestamp.mk.injEq] at read
      exact read.1.symm
    · intro same
      rw [warcDate_eq_rfc3339 whole, warcDate_eq_rfc3339 whole', same]
  rw [← second, ← second']
  refine ⟨⟨t.isAt_civilTime, isWritten_warcDate whole⟩, same, read, ?_, ?_⟩
  · intro plain
    exact length_warcDate plain whole
  · intro plain plain'
    have order := warcDate_lt_iff plain plain' whole whole'
    have order' := warcDate_lt_iff plain' plain whole' whole
    rcases lt_trichotomy t.seconds t'.seconds with before | sameSecond | after
    · rw [compare_lt_iff_lt.mpr before, compare_lt_iff_lt.mpr (order.mpr before)]
    · rw [compare_eq_iff_eq.mpr sameSecond, compare_eq_iff_eq.mpr (same.mpr sameSecond)]
    · rw [compare_gt_iff_gt.mpr after, compare_gt_iff_gt.mpr (order'.mpr after)]

/-- The last millisecond of 1969 is in the second before the start of 1970, and its date comes
before that of a leap day.
-/
theorem warcDate_keepsSecond_rounded
    : ofMillis? (-1) = some ⟨-1, 999000000⟩
      ∧ ofMillis? 951868799000 = some ⟨951868799, 0⟩
      ∧ (⟨-1, 999000000⟩ : Timestamp).warcDate = "1969-12-31T23:59:59Z"
      ∧ (⟨951868799, 0⟩ : Timestamp).warcDate = "2000-02-29T23:59:59Z"
      ∧ (⟨⟨1969, 12, 31⟩, 23, 59, 59⟩ : CivilTime).IsAt (-1)
      ∧ Rfc3339.read? "1969-12-31T23:59:59Z" = some ⟨-1, 0⟩
      ∧ "1969-12-31T23:59:59Z".length = 20
      ∧ compare "1969-12-31T23:59:59Z" "2000-02-29T23:59:59Z" = .lt := by
  have instant : ofMillis? (-1) = some ⟨-1, 999000000⟩ := by decide
  have instant' : ofMillis? 951868799000 = some ⟨951868799, 0⟩ := by decide
  have text : (⟨-1, 999000000⟩ : Timestamp).warcDate = "1969-12-31T23:59:59Z" := by decide
  have text' : (⟨951868799, 0⟩ : Timestamp).warcDate = "2000-02-29T23:59:59Z" := by decide
  have plain : (⟨-1, 999000000⟩ : Timestamp).civilTime.HasPlainYear := ⟨by decide, by decide⟩
  have plain' : (⟨951868799, 0⟩ : Timestamp).civilTime.HasPlainYear := ⟨by decide, by decide⟩
  have kept := warcDate_keepsSecond instant instant'
  rw [text, text'] at kept
  obtain ⟨⟨civil, -⟩, -, read, length, order⟩ := kept
  exact ⟨instant, instant', text, text', civil, read, length plain, order plain plain'⟩

end Timestamp

end WebHarvest.Calendar
