import WebHarvest.Calendar.Date

/-! Days and their numbers. The day that is told from a number is one that the calendar has, and has
that number. Years begin in March here, so that the leap day is the last of a cycle of four years,
which is the last of a century but for every fourth century.
-/

namespace WebHarvest.Calendar.Date

-----------------------------------------------------------------------------------------
-- Years in a cycle of four hundred years
-----------------------------------------------------------------------------------------

/-- A day of a cycle by its century, the four years in that, the year in those, and the day of the
year. The last day of a leap year comes in the last of four years only, and in the last of a century
only if that is the last century.
-/
structure IsCyclic (century fours year inYear : Int) : Prop where
  centuries : 0 ≤ century ∧ century ≤ 3
  inCentury : 0 ≤ fours ∧ fours ≤ 24
  inFours : 0 ≤ year ∧ year ≤ 3
  days : 0 ≤ inYear ∧ inYear ≤ 365
  leap : inYear = 365 → year = 3 ∧ (fours < 24 ∨ century = 3)

theorem exists_isCyclic {inCycle : Int} (first : 0 ≤ inCycle) (last : inCycle < cycleDays)
    : ∃ century fours year inYear,
        IsCyclic century fours year inYear
        ∧ inCycle = 36524 * century + 1461 * fours + 365 * year + inYear := by
  unfold cycleDays at last
  let century := min 3 (inCycle / 36524)
  let inCentury := inCycle - 36524 * century
  let inFours := inCentury % 1461
  let year := min 3 (inFours / 365)
  have whole : 0 ≤ inCentury ∧ inCentury ≤ 36524 ∧ (inCentury = 36524 → century = 3) := by omega
  refine ⟨century, inCentury / 1461, year, inFours - 365 * year, ?_, by omega⟩
  exact {
    centuries := by omega
    inCentury := by omega
    inFours := by omega
    days := by omega
    leap := by omega
  }

/-- The year of a cycle is found by taking out the leap days, whose number can be told from that of
the day. The last day of all is the one at which the centuries seem to be four.
-/
theorem IsCyclic.yearOfCycle_eq {century fours year inYear inCycle : Int}
    (cyclic : IsCyclic century fours year inYear)
    (same : inCycle = 36524 * century + 1461 * fours + 365 * year + inYear)
    : (inCycle - inCycle / 1460 + inCycle / 36524 - inCycle / 146096) / 365
      = 100 * century + 4 * fours + year := by
  obtain ⟨_, _, _, _, leap⟩ := cyclic
  by_cases last : inCycle = 146096
  · omega
  · have centuries : inCycle / 36524 = century := by omega
    have noCycle : inCycle / 146096 = 0 := by omega
    have leapDays
        : inCycle / 1460 = 25 * century + fours
            + (24 * century + fours + 365 * year + inYear) / 1460 := by
      omega
    rw [centuries, noCycle, leapDays]
    omega

/-- The days of a cycle before its year number `100 * century + 4 * fours + year`. -/
theorem IsCyclic.before_eq {century fours year inYear : Int}
    (cyclic : IsCyclic century fours year inYear)
    : let yearOfCycle := 100 * century + 4 * fours + year
      365 * yearOfCycle + yearOfCycle / 4 - yearOfCycle / 100
        = 36524 * century + 1461 * fours + 365 * year := by
  obtain ⟨_, _, _, _, leap⟩ := cyclic
  dsimp only
  have inFours : (100 * century + 4 * fours + year) / 4 = 25 * century + fours := by omega
  have centuries : (100 * century + 4 * fours + year) / 100 = century := by omega
  rw [inFours, centuries]
  omega

/-- The last day of such a year is the day of a leap year of the calendar, which begins in January.
-/
theorem IsCyclic.isLeapYear {century fours year inYear : Int}
    (cyclic : IsCyclic century fours year inYear) (last : inYear = 365) (cycle : Int)
    : isLeapYear (100 * century + 4 * fours + year + 400 * cycle + 1) = true := by
  obtain ⟨_, _, _, _, leap⟩ := cyclic
  obtain ⟨rfl, inner⟩ := leap last
  have four : (100 * century + 4 * fours + 3 + 400 * cycle + 1) % 4 = 0 := by omega
  have century
      : (100 * century + 4 * fours + 3 + 400 * cycle + 1) % 100 ≠ 0
        ∨ (100 * century + 4 * fours + 3 + 400 * cycle + 1) % 400 = 0 := by
    omega
  simpa [Calendar.isLeapYear, four] using century

-----------------------------------------------------------------------------------------
-- Months of a year that begins in March
-----------------------------------------------------------------------------------------

/-- A day of the year is a day of the month that it falls into, by cases of the twelve months. Only
the last day of a leap year is the twenty-ninth of February.
-/
theorem month_of_inYear {inYear : Int} (first : 0 ≤ inYear) (last : inYear ≤ 365)
    : let month := (5 * inYear + 2) / 153
      let day := inYear - daysBeforeMonth month + 1
      0 ≤ month
      ∧ month ≤ 11
      ∧ 1 ≤ day
      ∧ ∀ year,
          (inYear = 365 → isLeapYear (year + 1) = true)
          → if month < 10 then day ≤ monthLength year (month + 3).toNat
            else day ≤ monthLength (year + 1) (month - 9).toNat := by
  intro month day
  have low : 0 ≤ month := by omega
  have high : month ≤ 11 := by omega
  have begun : 153 * month ≤ 5 * inYear + 2 := by omega
  have ended : 5 * inYear + 2 < 153 * (month + 1) := by omega
  have place : day = inYear - (153 * month + 2) / 5 + 1 := rfl
  clear_value month day
  refine ⟨low, high, by omega, ?_⟩
  intro year leap
  by_cases february : month = 11
  · subst february
    have length
        : monthLength (year + 1) (11 - 9 : Int).toNat
          = if isLeapYear (year + 1) then 29 else 28 :=
      rfl
    rw [if_neg (by decide)]
    by_cases final : inYear = 365
    · rw [length, leap final, if_pos rfl]
      omega
    · rw [length]
      split <;> omega
  · obtain rfl | rfl | rfl | rfl | rfl | rfl | rfl | rfl | rfl | rfl | rfl :
        month = 0 ∨ month = 1 ∨ month = 2 ∨ month = 3 ∨ month = 4 ∨ month = 5 ∨ month = 6
        ∨ month = 7 ∨ month = 8 ∨ month = 9 ∨ month = 10 := by
      omega
    all_goals
      simp [monthLength]
      omega

-----------------------------------------------------------------------------------------
-- The day of a number
-----------------------------------------------------------------------------------------

/-- The days before a year that begins in March, by cycles of four hundred years. -/
theorem daysBeforeYear {yearOfCycle : Int} (first : 0 ≤ yearOfCycle) (last : yearOfCycle ≤ 399)
    (cycle : Int)
    : let year := yearOfCycle + 400 * cycle
      365 * year + year / 4 - year / 100 + year / 400
        = 365 * yearOfCycle + yearOfCycle / 4 - yearOfCycle / 100 + cycleDays * cycle := by
  unfold cycleDays
  dsimp only
  omega

/-- A day is told by its year from March, the month of that, and the day of the month. -/
def fromMarch (year month day : Int) : Date :=
  if month < 10 then ⟨year, (month + 3).toNat, day.toNat⟩
  else ⟨year + 1, (month - 9).toNat, day.toNat⟩

theorem toDays_fromMarch {month day : Int} (low : 0 ≤ month) (high : month ≤ 11) (begins : 1 ≤ day)
    (year : Int)
    : (fromMarch year month day).toDays
      = 365 * year + year / 4 - year / 100 + year / 400 + daysBeforeMonth month + (day - 1)
        - epochOffset := by
  have dayOf : (day.toNat : Int) = day := Int.toNat_of_nonneg (by omega)
  unfold fromMarch toDays
  split
  · have monthOf : ((month + 3).toNat : Int) - 3 = month := by omega
    simp only [show ¬(month + 3).toNat ≤ 2 by omega, if_false, monthOf, dayOf]
  · have monthOf : ((month - 9).toNat : Int) + 9 = month := by omega
    simp only [show (month - 9).toNat ≤ 2 by omega, if_true, monthOf, dayOf,
      Int.add_sub_cancel]

theorem isValid_fromMarch {month day : Int} (low : 0 ≤ month) (high : month ≤ 11)
    (begins : 1 ≤ day) {year : Int}
    (ends
      : if month < 10 then day ≤ monthLength year (month + 3).toNat
        else day ≤ monthLength (year + 1) (month - 9).toNat)
    : (fromMarch year month day).isValid = true := by
  unfold fromMarch isValid
  split at ends
  · rename_i early
    simp only [if_pos early, Bool.and_eq_true, decide_eq_true_eq]
    omega
  · rename_i late
    simp only [if_neg late, Bool.and_eq_true, decide_eq_true_eq]
    omega

/-- Every number is that of a day which the calendar has. -/
theorem ofDays_spec (days : Int) : (ofDays days).isValid = true ∧ (ofDays days).toDays = days := by
  have first : 0 ≤ (days + epochOffset) % cycleDays := Int.emod_nonneg _ (by decide)
  have last : (days + epochOffset) % cycleDays < cycleDays := Int.emod_lt_of_pos _ (by decide)
  obtain ⟨century, fours, year, inYear, cyclic, same⟩ := exists_isCyclic first last
  obtain ⟨low, high, begins, ends⟩ := month_of_inYear cyclic.days.1 cyclic.days.2
  let yearOfCycle := 100 * century + 4 * fours + year
  let cycle := (days + epochOffset) / cycleDays
  let month := (5 * inYear + 2) / 153
  have whole : (days + epochOffset) % cycleDays + cycleDays * cycle = days + epochOffset :=
    Int.emod_add_mul_ediv _ _
  have early : 0 ≤ yearOfCycle ∧ yearOfCycle ≤ 399 := by
    obtain ⟨_, _, _, _, _⟩ := cyclic
    omega
  have before
      : 365 * yearOfCycle + yearOfCycle / 4 - yearOfCycle / 100
        = (days + epochOffset) % cycleDays - inYear := by
    rw [cyclic.before_eq, same, Int.add_sub_cancel]
  have told
      : ofDays days
        = fromMarch (yearOfCycle + 400 * cycle) month (inYear - daysBeforeMonth month + 1) := by
    unfold ofDays
    dsimp only
    rw [cyclic.yearOfCycle_eq same, before, Int.sub_sub_self]
    rfl
  rw [told]
  constructor
  · exact isValid_fromMarch low high begins
      (ends _ fun final => cyclic.isLeapYear final cycle)
  · rw [toDays_fromMarch low high begins, daysBeforeYear early.1 early.2, before]
    omega

end WebHarvest.Calendar.Date
