/-!
# Dates and moments

A date of the proleptic Gregorian calendar, and a moment: a date with a time of day down to the
nanosecond. Dates are counted in days from 1970-01-01, and moments in milliseconds from the start
of that day.

Years are counted from March while days are counted, so that a leap day is the last day of its year
and the length of the months before it does not depend on the year.
-/

namespace NoteBase.Calendar

/-! ## Dates -/

def isLeapYear (year : Int) : Bool :=
  year % 4 == 0 && (year % 100 != 0 || year % 400 == 0)

/-- The number of days of a month, and none if there is no such month. -/
def daysInMonth (year : Int) (month : Nat) : Nat :=
  match month with
  | 1 | 3 | 5 | 7 | 8 | 10 | 12 => 31
  | 4 | 6 | 9 | 11 => 30
  | 2 => if isLeapYear year then 29 else 28
  | _ => 0

def minYear : Int := -262143

def maxYear : Int := 262142

structure Date where
  year : Int
  month : Nat
  day : Nat
  year_mem : minYear ≤ year ∧ year ≤ maxYear
  day_mem : 1 ≤ day ∧ day ≤ daysInMonth year month
deriving DecidableEq

namespace Date

/-- The date with this year, month and day, if there is one. -/
def of? (year : Int) (month day : Nat) : Option Date :=
  if yearMem : minYear ≤ year ∧ year ≤ maxYear then
    if dayMem : 1 ≤ day ∧ day ≤ daysInMonth year month then
      some ⟨year, month, day, yearMem, dayMem⟩
    else none
  else none

/-- The days from the start of March of year zero to the start of March of a year. -/
def daysBeforeMarch (year : Int) : Int :=
  365 * year + year / 4 - year / 100 + year / 400

/-- The days from the start of March to the start of a month, counted from March as zero. -/
def daysBeforeMonth (marchMonth : Nat) : Nat :=
  (153 * marchMonth + 2) / 5

/-- The days from the start of March of year zero to 1970-01-01. -/
def epochShift : Int := 719468

def dayNumber (date : Date) : Int :=
  let marchYear := if date.month ≤ 2 then date.year - 1 else date.year
  let marchMonth := (date.month + 9) % 12
  daysBeforeMarch marchYear + (daysBeforeMonth marchMonth + (date.day - 1) : Nat) - epochShift

/-- The March-based year that contains a day counted from the start of March of year zero. The
average length of a year gives a guess that is off by one at most. -/
def marchYearOf (days : Int) : Int :=
  let guess := days * 400 / 146097
  if days < daysBeforeMarch guess then guess - 1
  else if daysBeforeMarch (guess + 1) ≤ days then guess + 1
  else guess

/-- The date that is this many days from 1970-01-01, if its year is supported. -/
def ofDayNumber? (dayNumber : Int) : Option Date :=
  let days := dayNumber + epochShift
  let marchYear := marchYearOf days
  let dayOfYear := (days - daysBeforeMarch marchYear).toNat
  let marchMonth := (5 * dayOfYear + 2) / 153
  let day := dayOfYear - daysBeforeMonth marchMonth + 1
  if marchMonth < 10 then of? marchYear (marchMonth + 3) day
  else of? (marchYear + 1) (marchMonth - 9) day

end Date

/-! ## Moments -/

/-- The number of nanoseconds that may be counted in a second of the day: twice as many in the last
second of a minute, where those beyond a second stand for a leap second. -/
def nanosecondLimit (second : Nat) : Nat :=
  if second % 60 = 59 then 2000000000 else 1000000000

/-- A date with a time of day: the second of the day, and the nanosecond in it. -/
structure Moment where
  date : Date
  second : Nat
  nanosecond : Nat
  second_lt : second < 86400
  nanosecond_lt : nanosecond < nanosecondLimit second
deriving DecidableEq

namespace Moment

/-- The moment with this date, second of the day and nanosecond, if there is one. -/
def of? (date : Date) (second nanosecond : Nat) : Option Moment :=
  if secondLt : second < 86400 then
    if nanosecondLt : nanosecond < nanosecondLimit second then
      some ⟨date, second, nanosecond, secondLt, nanosecondLt⟩
    else none
  else none

def midnight (date : Date) : Moment :=
  ⟨date, 0, 0, by decide, by decide⟩

def epoch : Moment :=
  midnight ⟨1970, 1, 1, by decide, by decide⟩

/-- The moment with these numbers on the clock. A second of sixty is a leap second. -/
def ofClock? (date : Date) (hour minute second nanosecond : Nat) : Option Moment :=
  if hour < 24 ∧ minute < 60 then
    if second < 60 then
      if nanosecond < 1000000000 then of? date (hour * 3600 + minute * 60 + second) nanosecond
      else none
    else if second = 60 then of? date (hour * 3600 + minute * 60 + 59) (1000000000 + nanosecond)
    else none
  else none

/-- The seconds from 1970-01-01 to the moment; a leap second counts as the one before it. -/
def epochSecond (moment : Moment) : Int :=
  moment.date.dayNumber * 86400 + moment.second

/-- The whole milliseconds from 1970-01-01 to the moment. -/
def epochMillisecond (moment : Moment) : Int :=
  moment.epochSecond * 1000 + (moment.nanosecond / 1000000 : Nat)

/-- The moment this many seconds and nanoseconds after the start of 1970-01-01. -/
def ofEpochSecond? (seconds : Int) (nanosecond : Nat) : Option Moment :=
  (Date.ofDayNumber? (seconds / 86400)).bind fun date =>
    of? date (seconds % 86400).toNat nanosecond

/-- The moment this many milliseconds after the start of 1970-01-01. -/
def ofEpochMillisecond? (milliseconds : Int) : Option Moment :=
  ofEpochSecond? (milliseconds / 1000) ((milliseconds % 1000).toNat * 1000000)

def earlier? (moment : Moment) (seconds : Int) : Option Moment :=
  ofEpochSecond? (moment.epochSecond - seconds) moment.nanosecond

def isMidnight (moment : Moment) : Bool :=
  moment.second == 0 && moment.nanosecond == 0

end Moment

end NoteBase.Calendar
