import NoteBase.Expr.Eval
import NoteBase.Proofs.Calendar.DayNumber
import NoteBase.Proofs.Number.Numeral
import NoteBase.Proofs.Text.Edges
import NoteBase.Value.Json

/-!
# Dates that are written are read again

The text of a moment without a part of a second is read as this moment. A date alone is read by the
first pattern. A date with a time of day is refused by the pattern of a date, since the time is left
over, and is no time stamp, since it has no offset; the pattern that comes next is its own.
-/

namespace NoteBase

namespace Calendar

/-! ## Digits with zeros in front -/

section Padded

variable {width value : Nat}

theorem isDigit_padded (width value : Nat) : ∀ char ∈ padded width value, char.isDigit = true := by
  intro char member
  rcases List.mem_append.mp member with zero | digit
  · rw [List.eq_of_mem_replicate zero]
    rfl
  · exact Number.isDigit_digitChars value char digit

theorem decimalValue_zeros (count : Nat) (chars : List Char) :
    Number.decimalValue (List.replicate count '0' ++ chars) = Number.decimalValue chars := by
  induction count with
  | zero => rfl
  | succ count inductionHypothesis => exact inductionHypothesis

theorem decimalValue_padded (width value : Nat) :
    Number.decimalValue (padded width value) = value := by
  rw [padded, decimalValue_zeros]
  exact Number.decimalValue_digitChars value

theorem length_padded (positive : 0 < width) (fits : value < 10 ^ width) :
    (padded width value).length = width := by
  have short := (Nat.length_toDigits_le_iff (by decide) positive).mpr fits
  rw [padded, List.length_append, List.length_replicate]
  omega

theorem padded_ne_nil (width value : Nat) : padded width value ≠ [] :=
  List.append_ne_nil_of_right_ne_nil _ Nat.toDigits_ne_nil

theorem exists_padded (width value : Nat) :
    ∃ first others, padded width value = first :: others ∧ first.isDigit = true := by
  obtain ⟨first, others, chars⟩ := List.exists_cons_of_ne_nil (padded_ne_nil width value)
  exact ⟨first, others, chars, isDigit_padded width value first (chars ▸ List.mem_cons_self)⟩

/-- Where the digits are as many as may be taken, it does not matter what is behind them. -/
theorem takeNumber?_padded (positive : 0 < width) (fits : value < 10 ^ width) (rest : List Char) :
    takeNumber? (some width) (padded width value ++ rest) = some (value, rest) := by
  have length := length_padded positive fits
  have run : ((padded width value ++ rest).takeWhile Char.isDigit).take width =
      padded width value := by
    rw [List.takeWhile_append_of_pos (isDigit_padded width value), List.take_append_of_le_length
      length.ge, List.take_of_length_le length.le]
  rw [takeNumber?]
  simp only [run]
  rw [if_neg (by simp [padded_ne_nil]), decimalValue_padded, List.drop_left]

/-- Without a width the digits are taken up to another character. -/
theorem takeNumber?_none {rest : List Char} (ends : ∀ char ∈ rest.head?, char.isDigit = false) :
    takeNumber? none (padded width value ++ rest) = some (value, rest) := by
  have run : (padded width value ++ rest).takeWhile Char.isDigit = padded width value := by
    rw [Text.takeWhile_append_of_head ends, Text.takeWhile_eq_self (isDigit_padded width value)]
  rw [takeNumber?]
  simp only [run]
  rw [if_neg (by simp [padded_ne_nil]), decimalValue_padded, List.drop_left]

theorem takeDigits?_padded (positive : 0 < width) (fits : value < 10 ^ width) (rest : List Char) :
    takeDigits? width (padded width value ++ rest) = some (value, rest) := by
  have length := length_padded positive fits
  have front : (padded width value ++ rest).take width = padded width value := by
    rw [List.take_append_of_le_length length.ge, List.take_of_length_le length.le]
  have behind : (padded width value ++ rest).drop width = rest := by
    rw [List.drop_append_of_le_length length.ge, List.drop_of_length_le length.le, List.nil_append]
  rw [takeDigits?]
  simp only [front, behind]
  rw [if_pos ⟨length, List.all_eq_true.mpr (isDigit_padded width value)⟩, decimalValue_padded]

end Padded

/-! ## Fields -/

theorem trimStart_padded (width value : Nat) (rest : List Char) :
    Text.trimStart (padded width value ++ rest) = padded width value ++ rest := by
  obtain ⟨first, others, chars, digit⟩ := exists_padded width value
  rw [chars]
  refine Text.trimStart_eq_self fun char head => ?_
  obtain rfl := Option.some.inj head
  exact Text.isBlank_of_isDigit digit

/-- Any field may be written without a sign and with all of its digits. -/
theorem takeField?_padded (field : Field) {value : Nat} (fits : value < 10 ^ field.width)
    (rest : List Char) :
    takeField? field (padded field.width value ++ rest) = some ((value : Int), rest) := by
  have positive : 0 < field.width := by cases field <;> decide
  have taken := takeNumber?_padded positive fits rest
  obtain ⟨first, others, chars, digit⟩ := exists_padded field.width value
  obtain ⟨noPlus, noMinus⟩ := Number.noSign_of_isDigit digit
  unfold takeField?
  rw [trimStart_padded]
  rw [chars] at taken ⊢
  split
  next same => exact absurd (List.cons.inj same).1 noMinus
  next same => exact absurd (List.cons.inj same).1 noPlus
  next => exact congrArg (Option.map _) taken

theorem takeField?_yearChars (year : Int) (rest : List Char) :
    takeField? .year (yearChars year ++ '-' :: rest) = some (year, '-' :: rest) := by
  have ends : ∀ char ∈ ('-' :: rest).head?, char.isDigit = false := by
    intro char head
    obtain rfl := Option.some.inj head
    rfl
  -- A year of more than four digits has a sign, behind which the digits are not limited.
  have taken := @takeNumber?_none 4 year.natAbs ('-' :: rest) ends
  unfold yearChars
  split
  · have signed : takeField? .year ('-' :: padded 4 year.natAbs ++ '-' :: rest) =
        some (-(year.natAbs : Int), '-' :: rest) :=
      congrArg (Option.map _) taken
    rwa [show -(year.natAbs : Int) = year by omega] at signed
  · split
    · have signed : takeField? .year ('+' :: padded 4 year.natAbs ++ '-' :: rest) =
          some ((year.natAbs : Int), '-' :: rest) :=
        congrArg (Option.map _) taken
      rwa [show (year.natAbs : Int) = year by omega] at signed
    · have plain := @takeField?_padded .year year.natAbs (by simp only [Field.width]; omega)
        ('-' :: rest)
      rwa [show (year.natAbs : Int) = year by omega] at plain

/-! ## Patterns -/

/-- The fields with those of a date filled in. -/
def Date.fill (date : Date) (fields : Fields) : Fields
  | .year => date.year
  | .month => date.month
  | .day => date.day
  | field => fields field

/-- The fields of a time of day. -/
def Moment.clockFields (moment : Moment) : Fields
  | .hour => (moment.second / 3600 : Nat)
  | .minute => (moment.second / 60 % 60 : Nat)
  | .second => (moment.second % 60 : Nat)
  | _ => 0

theorem Date.month_lt (date : Date) : date.month < 100 :=
  Nat.lt_of_le_of_lt (month_mem date.day_mem).2 (by decide)

theorem Date.day_lt (date : Date) : date.day < 100 :=
  Nat.lt_of_le_of_lt (Nat.le_trans date.day_mem.2 (daysInMonth_le date.year date.month)) (by decide)

/-- A date is read in front of whatever the rest of the pattern reads. -/
theorem readPattern?_date (date : Date) (items : List Item) (rest : List Char) :
    readPattern? (datePattern ++ items) (date.chars ++ rest) =
      (readPattern? items rest).map date.fill := by
  have year := takeField?_yearChars date.year
    (padded 2 date.month ++ '-' :: (padded 2 date.day ++ rest))
  have month := takeField?_padded .month date.month_lt ('-' :: (padded 2 date.day ++ rest))
  have day := takeField?_padded .day date.day_lt rest
  simp only [Field.width] at month day
  rw [Date.chars, List.append_assoc, List.cons_append, List.append_assoc, List.cons_append]
  simp only [datePattern, List.cons_append, List.nil_append, readPattern?, year, month, day,
    Option.bind_some, if_true, Option.map_map]
  congr 1
  funext fields field
  cases field <;> rfl

/-- The fields of a date are in their ranges, so that only those of the clock may be refused. -/
theorem moment?_fill (date : Date) (fields : Fields) :
    (date.fill fields).moment? = Moment.ofClock? date (fields .hour).toNat (fields .minute).toNat
      (fields .second).toNat 0 := by
  have filled : Date.of? (date.fill fields .year) (date.fill fields .month).toNat
      (date.fill fields .day).toNat = some date := Date.of?_eq_some date
  rw [Fields.moment?, filled]
  rfl

section Whole

variable {moment : Moment} (whole : moment.nanosecond = 0)
include whole

theorem readPattern?_clock :
    readPattern? secondPattern moment.clockChars = some moment.clockFields := by
  have secondLt := moment.second_lt
  have hourLt : moment.second / 3600 < 10 ^ Field.hour.width := by
    show _ < 100
    omega
  have minuteLt : moment.second / 60 % 60 < 10 ^ Field.minute.width := by
    show _ < 100
    omega
  have restLt : moment.second % 60 < 10 ^ Field.second.width := by
    show _ < 100
    omega
  have hour := takeField?_padded .hour hourLt
    (':' :: (padded 2 (moment.second / 60 % 60) ++ ':' :: padded 2 (moment.second % 60)))
  have minute := takeField?_padded .minute minuteLt (':' :: padded 2 (moment.second % 60))
  have second := takeField?_padded .second restLt []
  simp only [Field.width, List.append_nil] at hour minute second
  have read : readPattern? secondPattern moment.clockChars = some fun (field : Field) =>
      if field = .hour then ((moment.second / 3600 : Nat) : Int)
      else if field = .minute then ((moment.second / 60 % 60 : Nat) : Int)
      else if field = .second then ((moment.second % 60 : Nat) : Int)
      else 0 := by
    simp only [secondPattern, minutePattern, Moment.clockChars, whole, Nat.zero_div, Nat.add_zero,
      List.cons_append, List.nil_append, readPattern?, hour, minute, second, Option.bind_some,
      Option.map_some, if_true]
  rw [read]
  congr 1
  funext field
  cases field <;> rfl

/-- The numbers on the clock give the moment. -/
theorem ofClock?_eq_some :
    Moment.ofClock? moment.date (moment.second / 3600) (moment.second / 60 % 60)
      (moment.second % 60) 0 = some moment := by
  have secondLt := moment.second_lt
  have sum : moment.second / 3600 * 3600 + moment.second / 60 % 60 * 60 + moment.second % 60 =
      moment.second := by
    omega
  have limit : 0 < nanosecondLimit moment.second := whole ▸ moment.nanosecond_lt
  rw [Moment.ofClock?, if_pos (by omega), if_pos (by omega), if_pos (by decide), sum, Moment.of?,
    dif_pos secondLt, dif_pos limit]
  congr 2
  exact whole.symm

end Whole

/-! ## Time stamps -/

theorem takeDigits?_of_head {count : Nat} (positive : 0 < count) {first : Char}
    (noDigit : first.isDigit = false) (rest : List Char) :
    takeDigits? count (first :: rest) = none := by
  obtain ⟨count, rfl⟩ := Nat.exists_eq_succ_of_ne_zero positive.ne'
  rw [takeDigits?]
  refine if_neg fun all => ?_
  have digit := List.all_eq_true.mp all.2 first List.mem_cons_self
  rw [noDigit] at digit
  cases digit

theorem nanosecondLimit_le (second : Nat) : nanosecondLimit second ≤ 2000000000 := by
  unfold nanosecondLimit
  split <;> decide

theorem bind_eq_none {α β : Type} {read : Option α} {value : α} {next : α → Option β}
    (found : read = some value) (refused : next value = none) : (read >>= next) = none := by
  rw [found]
  exact refused

/-- A date and a time without an offset are no time stamp. -/
theorem readStamp?_fullChars (moment : Moment) : readStamp? moment.fullChars = none := by
  have signed : ∀ (sign : Char) (rest : List Char), sign.isDigit = false →
      readStamp? (sign :: rest) = none := by
    intro sign rest noDigit
    rw [readStamp?, takeDigits?_of_head (by decide) noDigit]
    rfl
  have dash : ∀ rest, takeOneOf? ['-'] ('-' :: rest) = some rest := fun _ => rfl
  have colon : ∀ rest, takeOneOf? [':'] (':' :: rest) = some rest := fun _ => rfl
  have time : ∀ rest, takeOneOf? ['T', 't', ' '] ('T' :: rest) = some rest := fun _ => rfl
  unfold Moment.fullChars Date.chars yearChars
  split
  · exact signed '-' _ rfl
  · split
    · exact signed '+' _ rfl
    · next notNegative notLarge =>
      have secondLt := moment.second_lt
      have nanosecondLt : moment.nanosecond < 2000000000 :=
        Nat.lt_of_lt_of_le moment.nanosecond_lt (nanosecondLimit_le moment.second)
      have year := @takeDigits?_padded 4 moment.date.year.natAbs (by decide) (by omega)
      have month := @takeDigits?_padded 2 moment.date.month (by decide) moment.date.month_lt
      have day := @takeDigits?_padded 2 moment.date.day (by decide) moment.date.day_lt
      have hour := @takeDigits?_padded 2 (moment.second / 3600) (by decide) (by omega)
      have minute := @takeDigits?_padded 2 (moment.second / 60 % 60) (by decide) (by omega)
      have second := @takeDigits?_padded 2 (moment.second % 60 + moment.nanosecond / 1000000000)
        (by decide) (by omega) []
      rw [List.append_nil] at second
      simp only [List.append_assoc, List.cons_append]
      refine bind_eq_none (year _) (bind_eq_none (dash _) ?_)
      refine bind_eq_none (month _) (bind_eq_none (dash _) ?_)
      refine bind_eq_none (day _) (bind_eq_none (time _) ?_)
      refine bind_eq_none (hour _) (bind_eq_none (colon _) ?_)
      refine bind_eq_none (minute _) (bind_eq_none (colon _) ?_)
      -- The seconds are the last ones to be taken; an offset is asked for behind them.
      exact bind_eq_none second rfl

/-! ## Moments -/

theorem isBlank_padded (width value : Nat) :
    ∀ char ∈ padded width value, Text.isBlank char = false :=
  fun char member => Text.isBlank_of_isDigit (isDigit_padded width value char member)

theorem Date.isBlank_chars (date : Date) : ∀ char ∈ date.chars, Text.isBlank char = false := by
  have year : ∀ char ∈ yearChars date.year, Text.isBlank char = false := by
    unfold yearChars
    split
    · exact List.forall_mem_cons.mpr ⟨rfl, isBlank_padded _ _⟩
    · split
      · exact List.forall_mem_cons.mpr ⟨rfl, isBlank_padded _ _⟩
      · exact isBlank_padded _ _
  exact List.forall_mem_append.mpr ⟨year, List.forall_mem_cons.mpr ⟨rfl, List.forall_mem_append.mpr
    ⟨isBlank_padded _ _, List.forall_mem_cons.mpr ⟨rfl, isBlank_padded _ _⟩⟩⟩⟩

theorem Moment.isBlank_chars (moment : Moment) :
    ∀ char ∈ moment.chars, Text.isBlank char = false := by
  have clock : ∀ char ∈ moment.clockChars, Text.isBlank char = false :=
    List.forall_mem_append.mpr ⟨isBlank_padded _ _, List.forall_mem_cons.mpr ⟨rfl,
      List.forall_mem_append.mpr ⟨isBlank_padded _ _,
        List.forall_mem_cons.mpr ⟨rfl, isBlank_padded _ _⟩⟩⟩⟩
  unfold Moment.chars Moment.fullChars
  split
  · exact moment.date.isBlank_chars
  · exact List.forall_mem_append.mpr ⟨moment.date.isBlank_chars,
      List.forall_mem_cons.mpr ⟨rfl, clock⟩⟩

section Whole

variable {moment : Moment} (whole : moment.nanosecond = 0)
include whole

theorem ofTrimmed?_chars_midnight (midnight : moment.second = 0) :
    Moment.ofTrimmed? moment.date.chars = some moment := by
  have read := readPattern?_date moment.date [] []
  have clock := ofClock?_eq_some whole
  rw [List.append_nil, List.append_nil] at read
  rw [midnight] at clock
  have found : (readPattern? datePattern moment.date.chars).bind Fields.moment? = some moment := by
    rw [read]
    exact (moment?_fill moment.date _).trans clock
  rw [Moment.ofTrimmed?, found]

theorem ofTrimmed?_fullChars : Moment.ofTrimmed? moment.fullChars = some moment := by
  have dateOnly : readPattern? datePattern moment.fullChars = none := by
    have read := readPattern?_date moment.date [] ('T' :: moment.clockChars)
    rwa [List.append_nil] at read
  have read : readPattern? (datePattern ++ .literal 'T' :: secondPattern) moment.fullChars =
      some (moment.date.fill moment.clockFields) := by
    rw [Moment.fullChars, readPattern?_date, readPattern?, if_pos rfl, readPattern?_clock whole]
    rfl
  have found : (readPattern? (datePattern ++ .literal 'T' :: secondPattern) moment.fullChars).bind
      Fields.moment? = some moment := by
    rw [read]
    exact (moment?_fill moment.date _).trans (ofClock?_eq_some whole)
  rw [Moment.ofTrimmed?, dateOnly, Option.bind_none, readStamp?_fullChars, momentPatterns,
    List.findSome?_cons, found]

theorem Moment.ofText?_display : Moment.ofText? moment.display = some moment := by
  rw [Moment.ofText?, Moment.display, String.toList_ofList,
    Text.trimChars_of_noBlank moment.isBlank_chars]
  by_cases midnight : moment.isMidnight = true
  · rw [Moment.chars, if_pos midnight]
    exact ofTrimmed?_chars_midnight whole (beq_iff_eq.mp (Bool.and_eq_true_iff.mp midnight).1)
  · rw [Moment.chars, if_neg midnight]
    exact ofTrimmed?_fullChars whole

end Whole

end Calendar

/-! ## Values -/

open Calendar (Date Moment)

namespace Value

/-- The text of a date is read as this date where a date is expected: as it is, written as JSON, and
in place of a date as the argument of a function. -/
theorem moment?_text_display_date (moment : Moment) (whole : moment.nanosecond = 0) :
    (Value.text (Value.date moment).display).moment? = some moment ∧
    (Value.ofJson (Value.date moment).toJson).moment? = some moment ∧
    ∀ (now : Moment) (args : List Value), ∀ function ∈ [.year, .month, .day, .date],
      Expr.callFunction now function (.text (Value.date moment).display :: args) =
        Expr.callFunction now function (.date moment :: args) := by
  have read : (Value.text (Value.date moment).display).moment? = some moment :=
    Moment.ofText?_display whole
  refine ⟨read, read, fun now args function member => ?_⟩
  have argument : (Value.text (Value.date moment).display :: args).head?.bind Value.moment? =
      (Value.date moment :: args).head?.bind Value.moment? := by
    rw [List.head?_cons, List.head?_cons, Option.bind_some, Option.bind_some, read, moment?]
  simp only [List.mem_cons, List.not_mem_nil, or_false] at member
  rcases member with rfl | rfl | rfl | rfl
  all_goals
    simp only [Expr.callFunction, Expr.datePart, argument]

/-- A moment of a year before zero, at which a day does not start. -/
def beforeYearZero : Moment :=
  ⟨⟨-44, 3, 15, by decide, by decide⟩, 39600, 0, by decide, by decide⟩

/-- The sign of a year is read as one, also where a time of day follows. -/
theorem moment?_text_display_date_beforeYearZero :
    (Value.date beforeYearZero).display = "-0044-03-15T11:00:00" ∧
    (Value.text (Value.date beforeYearZero).display).moment? = some beforeYearZero ∧
    Expr.callFunction Moment.epoch .year [.text (Value.date beforeYearZero).display] =
      .number (Number.ofInt (-44)) := by
  have read := moment?_text_display_date beforeYearZero rfl
  exact ⟨rfl, read.1, read.2.2 Moment.epoch [] .year (by decide)⟩

end Value

end NoteBase
