import NoteBase.Calendar.Date
import NoteBase.Number.Literal
import NoteBase.Text.Blank

/-!
# The texts of dates

A moment is written as a date, with a time behind it unless it is the start of a day. Reading tries
a date first, then a time stamp with an offset from universal time, and then a date with a time of
day, with or without seconds.
-/

namespace NoteBase.Calendar

/-! ## Writing -/

/-- The digits of a natural, filled up with zeros in front. -/
def padded (width value : Nat) : List Char :=
  let digits := Nat.toDigits 10 value
  List.replicate (width - digits.length) '0' ++ digits

/-- A year has four digits at least, and a sign outside of `0` to `9999`. -/
def yearChars (year : Int) : List Char :=
  if year < 0 then '-' :: padded 4 year.natAbs
  else if 9999 < year then '+' :: padded 4 year.natAbs
  else padded 4 year.natAbs

def Date.chars (date : Date) : List Char :=
  yearChars date.year ++ '-' :: (padded 2 date.month ++ '-' :: padded 2 date.day)

/-- The text `HH:MM:SS`; a leap second is written as second sixty. -/
def Moment.clockChars (moment : Moment) : List Char :=
  let second := moment.second % 60 + moment.nanosecond / 1000000000
  padded 2 (moment.second / 3600) ++
    ':' :: (padded 2 (moment.second / 60 % 60) ++ ':' :: padded 2 second)

def Moment.fullChars (moment : Moment) : List Char :=
  moment.date.chars ++ 'T' :: moment.clockChars

/-- The text of a moment: the start of a day is written as its date alone. -/
def Moment.chars (moment : Moment) : List Char :=
  if moment.isMidnight then moment.date.chars else moment.fullChars

def Moment.display (moment : Moment) : String :=
  String.ofList moment.chars

/-! ## Reading by a pattern -/

inductive Field where
  | year
  | month
  | day
  | hour
  | minute
  | second
deriving DecidableEq

inductive Item where
  | field (field : Field)
  | literal (char : Char)
  | blanks

/-- The largest number of digits of a field that has no sign. -/
def Field.width : Field → Nat
  | .year => 4
  | _ => 2

/-- Takes a number of one up to `width` digits from the front; without a width the digits are not
limited. -/
def takeNumber? (width : Option Nat) (chars : List Char) : Option (Nat × List Char) :=
  let run := chars.takeWhile Char.isDigit
  let digits := match width with
    | some width => run.take width
    | none => run
  if digits.isEmpty then none
  else some (Number.decimalValue digits, chars.drop digits.length)

/-- Takes the number of a field from the front. A year may have a sign, and then any number of
digits. -/
def takeField? (field : Field) (chars : List Char) : Option (Int × List Char) :=
  let plain := fun (chars : List Char) =>
    (takeNumber? (some field.width) chars).map fun (value, rest) => ((value : Int), rest)
  match field, Text.trimStart chars with
  | .year, '-' :: rest => (takeNumber? none rest).map fun (value, rest) => (-(value : Int), rest)
  | .year, '+' :: rest => (takeNumber? none rest).map fun (value, rest) => ((value : Int), rest)
  | _, trimmed => plain trimmed

/-- What has been read by a pattern; a field that the pattern lacks is zero. -/
abbrev Fields := Field → Int

def readPattern? : List Item → List Char → Option Fields
  | [], [] => some fun _ => 0
  | [], _ :: _ => none
  | .field field :: items, chars =>
    (takeField? field chars).bind fun (value, rest) =>
      (readPattern? items rest).map fun fields other =>
        if other = field then value else fields other
  | .literal char :: items, chars =>
    match chars with
    | first :: rest => if first = char then readPattern? items rest else none
    | [] => none
  | .blanks :: items, chars => readPattern? items (Text.trimStart chars)

/-- The moment that the fields give, if all are in their ranges. -/
def Fields.moment? (fields : Fields) : Option Moment :=
  (Date.of? (fields .year) (fields .month).toNat (fields .day).toNat).bind fun date =>
    Moment.ofClock? date (fields .hour).toNat (fields .minute).toNat (fields .second).toNat 0

def datePattern : List Item :=
  [.field .year, .literal '-', .field .month, .literal '-', .field .day]

/-- The pattern of a time of day down to the minute. -/
def minutePattern : List Item :=
  [.field .hour, .literal ':', .field .minute]

/-- The pattern of a time of day down to the second. -/
def secondPattern : List Item :=
  minutePattern ++ [.literal ':', .field .second]

/-- The patterns of a date with a time of day, in the order in which they are tried. -/
def momentPatterns : List (List Item) :=
  [datePattern ++ .literal 'T' :: secondPattern,
   datePattern ++ .blanks :: secondPattern,
   datePattern ++ .literal 'T' :: minutePattern,
   datePattern ++ .blanks :: minutePattern]

/-! ## Time stamps with an offset -/

/-- Takes a number of exactly this many digits from the front. -/
def takeDigits? (count : Nat) (chars : List Char) : Option (Nat × List Char) :=
  let digits := chars.take count
  if digits.length = count ∧ digits.all Char.isDigit then
    some (Number.decimalValue digits, chars.drop count)
  else none

def takeOneOf? (set chars : List Char) : Option (List Char) :=
  match chars with
  | char :: rest => if char ∈ set then some rest else none
  | [] => none

/-- Takes an optional fraction of a second from the front, as nanoseconds. Digits behind the ninth
are dropped. -/
def takeFraction? (chars : List Char) : Option (Nat × List Char) :=
  match chars with
  | '.' :: rest =>
    (takeNumber? (some 9) rest).map fun (value, _) =>
      let digits := (rest.takeWhile Char.isDigit).take 9
      (value * Nat.pow 10 (9 - digits.length), rest.dropWhile Char.isDigit)
  | _ => some (0, chars)

/-- Reads the offset at the end of a time stamp, as seconds east of universal time. -/
def readOffset? (chars : List Char) : Option Int :=
  match chars with
  | ['Z'] | ['z'] => some 0
  | sign :: rest =>
    if sign = '+' ∨ sign = '-' ∨ sign = '−' then do
      let (hours, rest) ← takeDigits? 2 rest
      let rest ← takeOneOf? [':'] rest
      let (minutes, rest) ← takeDigits? 2 rest
      let seconds : Nat := hours * 3600 + minutes * 60
      if rest.isEmpty && minutes < 60 && hours < 24 then
        some (if sign = '+' then (seconds : Int) else -(seconds : Int))
      else none
    else none
  | [] => none

/-- Reads a time stamp with an offset, and gives the moment in universal time. -/
def readStamp? (chars : List Char) : Option Moment := do
  let (year, rest) ← takeDigits? 4 chars
  let rest ← takeOneOf? ['-'] rest
  let (month, rest) ← takeDigits? 2 rest
  let rest ← takeOneOf? ['-'] rest
  let (day, rest) ← takeDigits? 2 rest
  let rest ← takeOneOf? ['T', 't', ' '] rest
  let (hour, rest) ← takeDigits? 2 rest
  let rest ← takeOneOf? [':'] rest
  let (minute, rest) ← takeDigits? 2 rest
  let rest ← takeOneOf? [':'] rest
  let (second, rest) ← takeDigits? 2 rest
  let (nanosecond, rest) ← takeFraction? rest
  let offset ← readOffset? rest
  let date ← Date.of? year month day
  let moment ← Moment.ofClock? date hour minute second nanosecond
  moment.earlier? offset

/-! ## Reading -/

/-- The moment that the characters of a trimmed text stand for. -/
def Moment.ofTrimmed? (chars : List Char) : Option Moment :=
  match (readPattern? datePattern chars).bind Fields.moment? with
  | some moment => some moment
  | none =>
    match readStamp? chars with
    | some moment => some moment
    | none =>
      momentPatterns.findSome? fun pattern => (readPattern? pattern chars).bind Fields.moment?

/-- The moment that a text stands for, if it stands for one. -/
def Moment.ofText? (text : String) : Option Moment :=
  Moment.ofTrimmed? (Text.trimChars text.toList)

end NoteBase.Calendar
