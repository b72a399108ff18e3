import Mathlib.Logic.Function.Iterate
import Mathlib.Order.Monotone.Basic
import WebHarvest.Proofs.Calendar.Date

/-! Going through the calendar day by day. The day that is told from a number is the one that is
reached from the start of 1970 in as many steps, and a later day has a greater number.
-/

namespace WebHarvest.Calendar.Date

variable {date other : Date} {days : Int}

-----------------------------------------------------------------------------------------
-- The calendar by its rules
-----------------------------------------------------------------------------------------

/-- The first of January 1970. -/
def epochDay : Date :=
  ⟨1970, 1, 1⟩

/-- The day after a day: the next one of its month, the first of the next month, or New Year. -/
def next (date : Date) : Date :=
  if date.day < monthLength date.year date.month then { date with day := date.day + 1 }
  else if date.month < 12 then ⟨date.year, date.month + 1, 1⟩
  else ⟨date.year + 1, 1, 1⟩

/-- A day of the calendar is so many days after the first of January 1970, or before it if the
number is negative: going on from the earlier of the two leads to the later in as many steps.
-/
def HasNumber (date : Date) (days : Int) : Prop :=
  date.isValid = true ∧ next^[(-days).toNat] date = next^[days.toNat] epochDay

/-- A day is before another by year, month and day of the month, in that order. -/
def IsBefore (date other : Date) : Prop :=
  date.year < other.year
  ∨ date.year = other.year
    ∧ (date.month < other.month ∨ date.month = other.month ∧ date.day < other.day)

theorem isValid_iff
    : date.isValid = true
      ↔ (1 ≤ date.month ∧ date.month ≤ 12)
        ∧ 1 ≤ date.day ∧ date.day ≤ monthLength date.year date.month := by
  simp [isValid, and_assoc]

theorem monthLength_pos (year : Int) (month : Nat) : 0 < monthLength year month := by
  unfold monthLength
  split
  · split <;> decide
  · split <;> decide

theorem isValid_first (year : Int) {month : Nat} (first : 1 ≤ month) (last : month ≤ 12)
    : isValid ⟨year, month, 1⟩ = true :=
  isValid_iff.mpr ⟨⟨first, last⟩, Nat.le_refl 1, monthLength_pos year month⟩

/-- The day after a day of the calendar is one, by the cases of `next`. -/
theorem isValid_next (valid : date.isValid = true) : date.next.isValid = true := by
  obtain ⟨⟨firstMonth, lastMonth⟩, firstDay, lastDay⟩ := isValid_iff.mp valid
  unfold next
  split
  · rename_i inMonth
    exact isValid_iff.mpr ⟨⟨firstMonth, lastMonth⟩, Nat.le_add_left 1 _, inMonth⟩
  · split
    · rename_i inYear
      exact isValid_first _ (Nat.le_add_left 1 _) inYear
    · exact isValid_first _ (Nat.le_refl 1) (Nat.le_add_left 1 11)

-----------------------------------------------------------------------------------------
-- The numbers of the days of a month
-----------------------------------------------------------------------------------------

theorem toDays_eq (date : Date)
    : date.toDays = toDays ⟨date.year, date.month, 1⟩ + (date.day - 1) := by
  simp only [toDays]
  omega

/-- February is longer by the leap days that a year adds to those of the years before it. -/
theorem monthLength_february (year : Int)
    : (monthLength year 2 : Int)
      = 28 + (year / 4 - year / 100 + year / 400)
        - ((year - 1) / 4 - (year - 1) / 100 + (year - 1) / 400) := by
  have rule : isLeapYear year = true ↔ year % 4 = 0 ∧ (year % 100 ≠ 0 ∨ year % 400 = 0) := by
    simp [isLeapYear]
  change ((if isLeapYear year then 29 else 28 : Nat) : Int) = _
  split
  · rename_i leap
    have leap := rule.mp leap
    omega
  · rename_i common
    have common := mt rule.mpr common
    omega

/-- A month begins when the one before it has ended, by cases of the months. -/
theorem toDays_nextMonth (year : Int) {month : Nat} (first : 1 ≤ month) (last : month < 12)
    : toDays ⟨year, month + 1, 1⟩ = toDays ⟨year, month, 1⟩ + monthLength year month := by
  by_cases february : month = 2
  · subst february
    rw [monthLength_february]
    simp [toDays, daysBeforeMonth]
    omega
  · obtain rfl | rfl | rfl | rfl | rfl | rfl | rfl | rfl | rfl | rfl :
        month = 1 ∨ month = 3 ∨ month = 4 ∨ month = 5 ∨ month = 6 ∨ month = 7 ∨ month = 8
        ∨ month = 9 ∨ month = 10 ∨ month = 11 := by
      omega
    all_goals
      simp [toDays, daysBeforeMonth, monthLength]
      omega

theorem toDays_nextYear (year : Int)
    : toDays ⟨year + 1, 1, 1⟩ = toDays ⟨year, 12, 1⟩ + monthLength year 12 := by
  simp [toDays, daysBeforeMonth, monthLength]
  omega

/-- Numbers go up by one from a day to the next. -/
theorem toDays_next (valid : date.isValid = true) : date.next.toDays = date.toDays + 1 := by
  obtain ⟨⟨firstMonth, lastMonth⟩, firstDay, lastDay⟩ := isValid_iff.mp valid
  have place := toDays_eq date
  unfold next
  split
  · have following
        : toDays ⟨date.year, date.month, date.day + 1⟩
          = toDays ⟨date.year, date.month, 1⟩ + ((date.day + 1 : Nat) - 1) :=
      toDays_eq _
    omega
  · split
    · rename_i ended inYear
      rw [toDays_nextMonth date.year firstMonth inYear]
      omega
    · rename_i ended yearEnded
      have december : date.month = 12 := by omega
      rw [december] at place ended lastDay
      rw [toDays_nextYear]
      omega

-----------------------------------------------------------------------------------------
-- Numbers and the order of days
-----------------------------------------------------------------------------------------

/-- Months from January of the year zero to a month. -/
def monthNumber (date : Date) : Int :=
  12 * date.year + (date.month - 1)

/-- The number of the first day of a month. -/
def monthStart (number : Int) : Int :=
  toDays ⟨number / 12, (number % 12).toNat + 1, 1⟩

/-- Year and month of a day are told from the number of its month. -/
theorem of_monthNumber (valid : date.isValid = true)
    : date.monthNumber / 12 = date.year
      ∧ (date.monthNumber % 12).toNat + 1 = date.month := by
  obtain ⟨⟨firstMonth, lastMonth⟩, -⟩ := isValid_iff.mp valid
  unfold monthNumber
  omega

theorem monthStart_monthNumber (valid : date.isValid = true)
    : monthStart date.monthNumber = toDays ⟨date.year, date.month, 1⟩ := by
  obtain ⟨year, month⟩ := of_monthNumber valid
  rw [monthStart, year, month]

theorem monthStart_succ (number : Int)
    : monthStart (number + 1)
      = monthStart number + monthLength (number / 12) ((number % 12).toNat + 1) := by
  unfold monthStart
  by_cases december : number % 12 = 11
  · have year : (number + 1) / 12 = number / 12 + 1 := by omega
    have january : (number + 1) % 12 = 0 := by omega
    rw [year, january, december]
    exact toDays_nextYear _
  · have year : (number + 1) / 12 = number / 12 := by omega
    have month : ((number + 1) % 12).toNat = (number % 12).toNat + 1 := by omega
    rw [year, month]
    exact toDays_nextMonth _ (Nat.le_add_left 1 _) (by omega)

theorem monthStart_le {number later : Int} (onward : number ≤ later)
    : monthStart number ≤ monthStart later := by
  refine monotone_int_of_le_succ ?_ onward
  intro number
  rw [monthStart_succ]
  exact Int.le_add_of_nonneg_right (Int.natCast_nonneg _)

/-- All days of a month are before those of a later month. -/
theorem toDays_lt_of_monthNumber_lt (valid : date.isValid = true) (valid' : other.isValid = true)
    (earlier : date.monthNumber < other.monthNumber)
    : date.toDays < other.toDays := by
  obtain ⟨-, firstDay, lastDay⟩ := isValid_iff.mp valid
  obtain ⟨-, firstDay', -⟩ := isValid_iff.mp valid'
  obtain ⟨year, month⟩ := of_monthNumber valid
  have ended
      : monthStart (date.monthNumber + 1)
        = toDays ⟨date.year, date.month, 1⟩ + monthLength date.year date.month := by
    rw [monthStart_succ, monthStart_monthNumber valid, year, month]
  calc date.toDays
    _ = toDays ⟨date.year, date.month, 1⟩ + (date.day - 1) := toDays_eq _
    _ < monthStart (date.monthNumber + 1) := by omega
    _ ≤ monthStart other.monthNumber := monthStart_le earlier
    _ = toDays ⟨other.year, other.month, 1⟩ := monthStart_monthNumber valid'
    _ ≤ toDays ⟨other.year, other.month, 1⟩ + (other.day - 1) := by omega
    _ = other.toDays := (toDays_eq _).symm

/-- A day that is before another has a lesser number, by whether they are of one month. -/
theorem toDays_lt_of_isBefore (valid : date.isValid = true) (valid' : other.isValid = true)
    (before : date.IsBefore other)
    : date.toDays < other.toDays := by
  obtain ⟨⟨firstMonth, lastMonth⟩, -⟩ := isValid_iff.mp valid
  obtain ⟨⟨firstMonth', lastMonth'⟩, -⟩ := isValid_iff.mp valid'
  unfold IsBefore at before
  by_cases sameMonth : date.year = other.year ∧ date.month = other.month
  · have place := toDays_eq date
    have place' := toDays_eq other
    rw [sameMonth.1, sameMonth.2] at place
    omega
  · apply toDays_lt_of_monthNumber_lt valid valid'
    unfold monthNumber
    omega

theorem eq_iff
    : date = other
      ↔ date.year = other.year ∧ date.month = other.month ∧ date.day = other.day := by
  cases date
  cases other
  exact Date.mk.injEq .. ▸ Iff.rfl

theorem isBefore_or_eq_or_isBefore (date other : Date)
    : date.IsBefore other ∨ date = other ∨ other.IsBefore date := by
  rw [eq_iff]
  unfold IsBefore
  omega

/-- Numbers of days tell which day is before the other. -/
theorem toDays_lt_iff (valid : date.isValid = true) (valid' : other.isValid = true)
    : date.toDays < other.toDays ↔ date.IsBefore other := by
  constructor
  · intro less
    rcases isBefore_or_eq_or_isBefore date other with before | rfl | after
    · exact before
    · exact absurd less (lt_irrefl _)
    · exact absurd less (lt_asymm (toDays_lt_of_isBefore valid' valid after))
  · exact toDays_lt_of_isBefore valid valid'

/-- Days with one number are the same. -/
theorem toDays_inj (valid : date.isValid = true) (valid' : other.isValid = true)
    : date.toDays = other.toDays ↔ date = other := by
  constructor
  · intro same
    rcases isBefore_or_eq_or_isBefore date other with before | same | after
    · exact absurd same (ne_of_lt (toDays_lt_of_isBefore valid valid' before))
    · exact same
    · exact absurd same.symm (ne_of_lt (toDays_lt_of_isBefore valid' valid after))
  · exact congrArg toDays

/-- Days of earlier years are those before New Year. -/
theorem year_lt_iff (valid : date.isValid = true) (year : Int)
    : date.year < year ↔ date.toDays < toDays ⟨year, 1, 1⟩ := by
  have newYear := isValid_first year (Nat.le_refl 1) (Nat.le_add_left 1 11)
  obtain ⟨⟨firstMonth, -⟩, firstDay, -⟩ := isValid_iff.mp valid
  rw [toDays_lt_iff valid newYear]
  unfold IsBefore
  dsimp only
  omega

-----------------------------------------------------------------------------------------
-- The day of a number by steps
-----------------------------------------------------------------------------------------

theorem ofDays_toDays (valid : date.isValid = true) : ofDays date.toDays = date := by
  obtain ⟨valid', same⟩ := ofDays_spec date.toDays
  exact (toDays_inj valid' valid).mp same

/-- The next number is that of the next day. -/
theorem ofDays_succ (days : Int) : ofDays (days + 1) = (ofDays days).next := by
  obtain ⟨valid, number⟩ := ofDays_spec days
  rw [← ofDays_toDays (isValid_next valid), toDays_next valid, number]

theorem iterate_next_ofDays (days : Int) (steps : Nat)
    : next^[steps] (ofDays days) = ofDays (days + steps) := by
  induction steps with
  | zero => simp
  | succ steps ih =>
      rw [Function.iterate_succ_apply', ih, ← ofDays_succ, Int.add_assoc, Int.natCast_add,
        Int.natCast_one]

/-- The days that have a number are those that are told from it. -/
theorem hasNumber_iff : date.HasNumber days ↔ date = ofDays days := by
  have epoch : epochDay = ofDays 0 := rfl
  unfold HasNumber
  rw [epoch, iterate_next_ofDays, Int.zero_add]
  constructor
  · rintro ⟨valid, reached⟩
    rw [← ofDays_toDays valid, iterate_next_ofDays] at reached
    have numbers := congrArg toDays reached
    rw [(ofDays_spec _).2, (ofDays_spec _).2] at numbers
    rw [← ofDays_toDays valid]
    congr 1
    omega
  · rintro rfl
    refine ⟨(ofDays_spec days).1, ?_⟩
    rw [iterate_next_ofDays]
    congr 1
    omega

theorem HasNumber.toDays_eq (numbered : date.HasNumber days) : date.toDays = days := by
  rw [hasNumber_iff.mp numbered]
  exact (ofDays_spec days).2

theorem HasNumber.lt_iff {days' : Int} (numbered : date.HasNumber days)
    (numbered' : other.HasNumber days')
    : days < days' ↔ date.IsBefore other := by
  rw [← toDays_lt_iff numbered.1 numbered'.1, numbered.toDays_eq, numbered'.toDays_eq]

theorem HasNumber.eq_iff {days' : Int} (numbered : date.HasNumber days)
    (numbered' : other.HasNumber days')
    : days = days' ↔ date = other := by
  rw [← toDays_inj numbered.1 numbered'.1, numbered.toDays_eq, numbered'.toDays_eq]

end WebHarvest.Calendar.Date
