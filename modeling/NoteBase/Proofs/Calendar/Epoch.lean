import NoteBase.Formula
import NoteBase.Proofs.Calendar.DayNumber
import NoteBase.Proofs.Number.Nearest

/-!
# Moments as numbers

The epoch milliseconds of every moment fit into a double, and the moment is found again from them,
up to the part of a millisecond that they leave out. So a formula whose result is a date may be read
as a date where it is stored as a number.
-/

namespace NoteBase

namespace Calendar.Moment

/-! ## Moments from their seconds -/

theorem ofEpochSecond?_epochSecond (moment : Moment) {nanosecond : Nat}
    (fits : nanosecond < nanosecondLimit moment.second) :
    ofEpochSecond? moment.epochSecond nanosecond =
      some ⟨moment.date, moment.second, nanosecond, moment.second_lt, fits⟩ := by
  have secondLt := moment.second_lt
  have days : moment.epochSecond / 86400 = moment.date.dayNumber := by
    unfold epochSecond
    omega
  have second : (moment.epochSecond % 86400).toNat = moment.second := by
    unfold epochSecond
    omega
  rw [ofEpochSecond?, days, second, Date.ofDayNumber?_dayNumber, Option.bind_some, of?,
    dif_pos secondLt, dif_pos fits]

/-- The moment at the start of the millisecond in which a moment lies. -/
def wholeMilliseconds (moment : Moment) : Moment where
  date := moment.date
  second := moment.second
  nanosecond := moment.nanosecond / 1000000 * 1000000
  second_lt := moment.second_lt
  nanosecond_lt := Nat.lt_of_le_of_lt (Nat.div_mul_le_self _ _) moment.nanosecond_lt

section Milliseconds

variable {moment : Moment}

/-- Milliseconds from 1970-01-01 give back the moment, unless it is in a leap second, which counts
as the second behind it. -/
theorem ofEpochMillisecond?_epochMillisecond (noLeap : moment.nanosecond < 1000000000) :
    ofEpochMillisecond? moment.epochMillisecond = some moment.wholeMilliseconds := by
  have second : moment.epochMillisecond / 1000 = moment.epochSecond := by
    unfold epochMillisecond
    omega
  have rest : (moment.epochMillisecond % 1000).toNat * 1000000 =
      moment.wholeMilliseconds.nanosecond := by
    have parts : (moment.epochMillisecond % 1000).toNat = moment.nanosecond / 1000000 := by
      unfold epochMillisecond
      omega
    rw [parts]
    rfl
  rw [ofEpochMillisecond?, second, rest]
  exact ofEpochSecond?_epochSecond moment moment.wholeMilliseconds.nanosecond_lt

/-- Milliseconds are counted exactly by a double. -/
theorem natAbs_epochMillisecond_lt (noLeap : moment.nanosecond < 1000000000) :
    moment.epochMillisecond.natAbs < 2 ^ 53 := by
  have days := moment.date.dayNumber_mem
  have secondLt := moment.second_lt
  unfold epochMillisecond epochSecond
  omega

end Milliseconds

end Calendar.Moment

open Calendar (Date Moment)

/-! ## Values -/

namespace Value

theorem moment?_number_ofInt {value : Int} (small : value.natAbs < 2 ^ 53) :
    (Value.number (Number.ofInt value)).moment? = Moment.ofEpochMillisecond? value := by
  have finite := (Bool.and_eq_true_iff.mp (Number.isIntegral_ofInt small)).1
  rw [moment?, if_pos finite, Number.toWord_ofInt small]

/-- What is stored for a formula with a date as its result is the number of the date. -/
theorem formula_value_date {now : Moment} {record : Record} {formula : CompiledFormula}
    {expr : Expr} {moment : Moment} (noLeap : moment.nanosecond < 1000000000)
    (compiled : formula.expr = some expr)
    (evaluated : Expr.evalFormula now record expr = .ok (.date moment)) :
    formula.value now record = .number (Value.date moment).toNumber := by
  have small := Moment.natAbs_epochMillisecond_lt noLeap
  have finite := (Bool.and_eq_true_iff.mp (Number.isIntegral_ofInt small)).1
  have number : Formula.numberOf? now record expr = some (Value.date moment).toNumber := by
    rw [Formula.numberOf?, evaluated]
    exact if_pos finite
  rw [CompiledFormula.value, compiled, Option.bind_some, number]

/-- The number of a date is exactly its count of milliseconds, and is read as the date at the start
of the millisecond; so is the number that is stored for a formula with this date as its result. -/
theorem moment?_toNumber_date (moment : Moment) (noLeap : moment.nanosecond < 1000000000) :
    Number.isIntegral (Value.date moment).toNumber = true ∧
    Number.truncate (Value.date moment).toNumber = moment.epochMillisecond ∧
    (Value.number (Value.date moment).toNumber).moment? = some moment.wholeMilliseconds ∧
    ∀ (now : Moment) (record : Record) (formula : CompiledFormula) (expr : Expr),
      formula.expr = some expr → Expr.evalFormula now record expr = .ok (.date moment) →
      (formula.value now record).moment? = some moment.wholeMilliseconds := by
  have small := Moment.natAbs_epochMillisecond_lt noLeap
  have read : (Value.number (Value.date moment).toNumber).moment? =
      some moment.wholeMilliseconds :=
    (moment?_number_ofInt small).trans (Moment.ofEpochMillisecond?_epochMillisecond noLeap)
  refine ⟨Number.isIntegral_ofInt small, Number.truncate_ofInt small, read, ?_⟩
  intro now record formula expr compiled evaluated
  rw [formula_value_date noLeap compiled evaluated, read]

/-- The last nanosecond before 1970. -/
def lastBeforeEpoch : Moment :=
  ⟨⟨1969, 12, 31, by decide, by decide⟩, 86399, 999999999, by decide, by decide⟩

def releasedNote : Record :=
  OrderedMap.empty.insert "released" (.date lastBeforeEpoch)

/-- A moment before 1970 and a part of a millisecond, as a number and as a formula. -/
theorem moment?_toNumber_date_lastBeforeEpoch :
    (Value.number (Value.date lastBeforeEpoch).toNumber).moment? =
      some lastBeforeEpoch.wholeMilliseconds ∧
    lastBeforeEpoch.wholeMilliseconds.nanosecond = 999000000 ∧
    ((CompiledFormula.ofDef ⟨"when", "date(released)"⟩).value Moment.epoch releasedNote).moment? =
      some lastBeforeEpoch.wholeMilliseconds := by
  have read := moment?_toNumber_date lastBeforeEpoch (by decide)
  refine ⟨read.2.2.1, rfl, read.2.2.2 _ _ _ (.call .date [.property ["released"]]) ?_ ?_⟩
  · rfl
  · rfl

end Value

end NoteBase
