import Mathlib.Tactic.IntervalCases
import NoteBase.Calendar.Date

/-!
# Counting days

A date is found again from the number of days that are counted up to it. Years from March on have
365 or 366 days, so that the year that is guessed from the average length is the right one or the
one before; within a year the months start at the same days, whether or not the year is a leap year.
-/

namespace NoteBase.Calendar.Date

/-! ## Years -/

/-- Four hundred years have 146097 days, which the years before a given one have on average. -/
theorem daysBeforeMarch_mem (year : Int) :
    146097 * year - 699 ≤ 400 * daysBeforeMarch year ∧
      400 * daysBeforeMarch year ≤ 146097 * year + 396 := by
  unfold daysBeforeMarch
  omega

theorem daysBeforeMarch_succ (year : Int) :
    daysBeforeMarch year + 365 ≤ daysBeforeMarch (year + 1) ∧
      daysBeforeMarch (year + 1) ≤ daysBeforeMarch year + 366 := by
  unfold daysBeforeMarch
  omega

/-- The leap day is counted in front of the March of its year. -/
theorem daysBeforeMarch_of_isLeapYear {year : Int} (leap : isLeapYear year = true) :
    daysBeforeMarch year = daysBeforeMarch (year - 1) + 366 := by
  simp only [isLeapYear, Bool.and_eq_true, Bool.or_eq_true, beq_iff_eq, bne_iff_ne] at leap
  unfold daysBeforeMarch
  omega

/-- The year that a day lies in is found. -/
theorem marchYearOf_eq {year days : Int} (low : daysBeforeMarch year ≤ days)
    (high : days < daysBeforeMarch (year + 1)) : marchYearOf days = year := by
  have lowBound := daysBeforeMarch_mem year
  have highBound := daysBeforeMarch_mem (year + 1)
  have before := daysBeforeMarch_succ (year - 1)
  rw [Int.sub_add_cancel] at before
  have guessed : days * 400 / 146097 = year ∨ days * 400 / 146097 = year - 1 := by omega
  unfold marchYearOf
  rcases guessed with same | previous
  · simp only [same]
    rw [if_neg (by omega), if_neg (by omega)]
  · simp only [previous, Int.sub_add_cancel]
    rw [if_neg (by omega), if_pos low]

/-! ## Months -/

section Months

variable {year : Int} {month day : Nat}

/-- The March-based year of a month. -/
def marchYear (year : Int) (month : Nat) : Int :=
  if month ≤ 2 then year - 1 else year

/-- The place of a month behind March. -/
def marchMonth (month : Nat) : Nat :=
  (month + 9) % 12

/-- The days from the start of March to a day. -/
def marchDay (month day : Nat) : Nat :=
  daysBeforeMonth (marchMonth month) + (day - 1)

theorem month_mem (dayMem : 1 ≤ day ∧ day ≤ daysInMonth year month) :
    1 ≤ month ∧ month ≤ 12 := by
  by_contra outside
  have none : daysInMonth year month = 0 := by
    unfold daysInMonth
    split <;> omega
  omega

theorem daysInMonth_le (year : Int) (month : Nat) : daysInMonth year month ≤ 31 := by
  unfold daysInMonth
  repeat' split
  all_goals omega

theorem daysInMonth_february (year : Int) : daysInMonth year 2 ≤ 29 := by
  show (if isLeapYear year then 29 else 28) ≤ 29
  split <;> decide

/-- The months from March on start at the same days in every year, and a month is over when the next
one starts. -/
theorem marchMonth_of_marchDay (dayMem : 1 ≤ day ∧ day ≤ daysInMonth year month) :
    (5 * marchDay month day + 2) / 153 = marchMonth month := by
  obtain ⟨low, high⟩ := month_mem dayMem
  obtain ⟨positive, within⟩ := dayMem
  have february := daysInMonth_february year
  unfold marchDay marchMonth daysBeforeMonth
  interval_cases month
  case «2» => omega
  all_goals
    simp only [daysInMonth] at within
    omega

/-- The last day of a March-based year is the last one of February. -/
theorem marchDay_lt (dayMem : 1 ≤ day ∧ day ≤ daysInMonth year month) :
    daysBeforeMarch (marchYear year month) + marchDay month day <
      daysBeforeMarch (marchYear year month + 1) := by
  obtain ⟨low, high⟩ := month_mem dayMem
  obtain ⟨positive, within⟩ := dayMem
  have next := daysBeforeMarch_succ (marchYear year month)
  unfold marchDay marchMonth daysBeforeMonth
  interval_cases month
  case «2» =>
    rw [show marchYear year 2 = year - 1 from rfl, Int.sub_add_cancel] at next ⊢
    by_cases leap : isLeapYear year = true
    · have longer := daysBeforeMarch_of_isLeapYear leap
      have last := daysInMonth_february year
      omega
    · have last : daysInMonth year 2 = 28 := if_neg leap
      omega
  all_goals
    simp only [daysInMonth] at within
    omega

end Months

/-! ## Days -/

theorem dayNumber_eq (date : Date) :
    date.dayNumber + epochShift =
      daysBeforeMarch (marchYear date.year date.month) + marchDay date.month date.day :=
  Int.sub_add_cancel _ _

theorem of?_eq_some (date : Date) : of? date.year date.month date.day = some date := by
  rw [of?, dif_pos date.year_mem, dif_pos date.day_mem]

/-- The date with a day number is found from it. -/
theorem ofDayNumber?_dayNumber (date : Date) : ofDayNumber? date.dayNumber = some date := by
  have year := marchYearOf_eq (Int.le_add_of_nonneg_right (Int.natCast_nonneg _))
    (marchDay_lt date.day_mem)
  have month := marchMonth_of_marchDay date.day_mem
  have monthMem := month_mem date.day_mem
  have dayOfYear : (daysBeforeMarch (marchYear date.year date.month) +
      marchDay date.month date.day - daysBeforeMarch (marchYear date.year date.month)).toNat =
        marchDay date.month date.day := by
    omega
  have day : marchDay date.month date.day - daysBeforeMonth (marchMonth date.month) + 1 =
      date.day := by
    have positive := date.day_mem.1
    unfold marchDay
    omega
  unfold ofDayNumber?
  simp only [dayNumber_eq, year, dayOfYear, month, day]
  by_cases early : date.month ≤ 2
  · rw [marchYear, if_pos early, marchMonth, if_neg (by omega), Int.sub_add_cancel,
      show (date.month + 9) % 12 - 9 = date.month by omega]
    exact of?_eq_some date
  · rw [marchYear, if_neg early, marchMonth, if_pos (by omega),
      show (date.month + 9) % 12 + 3 = date.month by omega]
    exact of?_eq_some date

/-- The day numbers of the years that are supported. -/
theorem dayNumber_mem (date : Date) :
    -100000000 < date.dayNumber ∧ date.dayNumber < 100000000 := by
  have counted := dayNumber_eq date
  have yearMem := date.year_mem
  have low := daysBeforeMarch_mem (marchYear date.year date.month)
  have high := daysBeforeMarch_mem (marchYear date.year date.month + 1)
  have next := marchDay_lt date.day_mem
  have yearBounds : minYear - 1 ≤ marchYear date.year date.month ∧
      marchYear date.year date.month ≤ maxYear := by
    unfold marchYear
    split <;> omega
  unfold minYear maxYear at yearBounds
  unfold epochShift at counted
  omega

end NoteBase.Calendar.Date
