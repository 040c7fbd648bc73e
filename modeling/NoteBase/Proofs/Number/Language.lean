import NoteBase.Proofs.Number.Literals
import NoteBase.Proofs.Number.Rounding

/-!
# The language of numeric text

The numerals that a text may be, each with its characters and the number that it denotes, and what a
reader of them is: the text of a numeral is read as this number, and any other text is not a number.
Reading a text as a number is this, but for one plus sign behind the prefix of a radix, which is
passed over.
-/

namespace NoteBase.Number

/-! ## Numerals with a radix -/

inductive Radix
  | hexadecimal
  | octal
  | binary
  deriving DecidableEq

namespace Radix

def base : Radix → Nat
  | hexadecimal => 16
  | octal => 8
  | binary => 2

def mark : Radix → Bool → Char
  | hexadecimal, upper => if upper then 'X' else 'x'
  | octal, upper => if upper then 'O' else 'o'
  | binary, upper => if upper then 'B' else 'b'

end Radix

/-- A natural number in the base that its prefix announces, with at least one digit. Each digit has
the form in which it is written. -/
structure RadixNumeral where
  radix : Radix
  upper : Bool
  digits : List (Fin radix.base × Bool)
  nonempty : digits ≠ []

namespace RadixNumeral

def digitChars (numeral : RadixNumeral) : List Char :=
  numeral.digits.map fun digit => digitChar digit.1 digit.2

def chars (numeral : RadixNumeral) : List Char :=
  '0' :: numeral.radix.mark numeral.upper :: numeral.digitChars

def value (numeral : RadixNumeral) : Nat :=
  placeValue (numeral.digits.map Prod.fst)

end RadixNumeral

/-! ## Numerals -/

/-- What a text has to be to be read as a number. -/
inductive Numeral
  | empty
  | infinity (sign : SignMark)
  | radix (numeral : RadixNumeral)
  | decimal (literal : Literal)

namespace Numeral

def chars : Numeral → List Char
  | empty => []
  | infinity sign => sign.chars ++ "Infinity".toList
  | radix numeral => numeral.chars
  | decimal literal => literal.chars

/-- Numerals with a radix have the value of a word of 64 bits. -/
def InRange : Numeral → Prop
  | radix numeral => numeral.value < 2 ^ 64
  | _ => True

/-- The number that a numeral denotes: of those with a finite value it is the nearest double. -/
def Denotes : Numeral → Float → Prop
  | empty, number => IsNearest false 0 number
  | infinity sign, number =>
      number = if sign.isMinus then negativeInfinity else Number.infinity
  | radix numeral, number => IsNearest false numeral.value number
  | decimal literal, number => IsNearest literal.sign.isMinus literal.value number

theorem Denotes.unique {numeral : Numeral} {number other : Float}
    (denotes : numeral.Denotes number) (otherDenotes : numeral.Denotes other) :
    number = other := by
  cases numeral with
  | empty =>
      exact IsNearest.unique denotes otherDenotes
  | infinity sign =>
      exact Eq.trans denotes otherDenotes.symm
  | radix numeral =>
      exact IsNearest.unique denotes otherDenotes
  | decimal literal =>
      exact IsNearest.unique denotes otherDenotes

end Numeral

/-- The characters are those of a numeral that denotes the number, or there is no such numeral, and
the number is not a number. -/
inductive Reads (chars : List Char) (number : Float) : Prop
  | numeral (numeral : Numeral) (spelled : numeral.chars = chars) (inRange : numeral.InRange)
      (denotes : numeral.Denotes number)
  | other (noNumeral : ∀ numeral : Numeral, numeral.InRange → numeral.chars ≠ chars)
      (undefined : number = notANumber)

/-! ## Numerals with a radix are read -/

section Radix

theorem digitValue?_digitChar (radix : Radix) :
    ∀ (digit : Fin radix.base) (upper : Bool),
      digitValue? radix.base (digitChar digit upper) = some digit.val := by
  cases radix <;> decide +kernel

theorem digitChar_letter {char : Char} {first : Nat} (upper : Bool)
    (letters : ∀ digit : Fin 6, (digitChar (digit + 10) upper).toNat = digit + first)
    (low : first ≤ char.toNat) (high : char.toNat < first + 6) :
    digitChar (char.toNat - first + 10) upper = char := by
  have letter := letters ⟨char.toNat - first, by omega⟩
  exact Char.toNat_inj.mp (letter.trans (Nat.sub_add_cancel low))

theorem exists_digit {base : Nat} {char : Char} {value : Nat}
    (found : digitValue? base char = some value) :
    value < base ∧ ∃ upper, digitChar value upper = char := by
  obtain ⟨chosen, bound⟩ := Option.filter_eq_some_iff.mp found
  refine ⟨of_decide_eq_true bound, ?_⟩
  split at chosen
  next digit =>
    obtain ⟨digit, rfl⟩ := exists_digitChar digit
    cases chosen
    exact ⟨false, by rw [toNat_digitChar]; rfl⟩
  next =>
    split at chosen
    next lower =>
      cases chosen
      have range : 97 ≤ char.toNat ∧ char.toNat ≤ 102 := by
        simpa [Char.le_def, UInt32.le_iff_toNat_le] using lower
      exact ⟨false, digitChar_letter false (by decide) range.1 (Nat.lt_succ_of_le range.2)⟩
    next =>
      split at chosen
      next upper =>
        cases chosen
        have range : 65 ≤ char.toNat ∧ char.toNat ≤ 70 := by
          simpa [Char.le_def, UInt32.le_iff_toNat_le] using upper
        exact ⟨true, digitChar_letter true (by decide) range.1 (Nat.lt_succ_of_le range.2)⟩
      next => cases chosen

theorem digitsValue?_digitChars (numeral : RadixNumeral) :
    digitsValue? numeral.radix.base numeral.digitChars = some numeral.value := by
  have nonempty : ¬ numeral.digitChars.isEmpty = true := by
    rw [List.isEmpty_iff, RadixNumeral.digitChars, List.map_eq_nil_iff]
    exact numeral.nonempty
  rw [digitsValue?, if_neg nonempty, RadixNumeral.digitChars, RadixNumeral.value]
  induction numeral.digits using List.reverseRecOn with
  | nil =>
      rfl
  | append_singleton digits digit inductionHypothesis =>
      rw [List.map_append, List.foldlM_append, inductionHypothesis, List.map_append,
        List.map_singleton, List.map_singleton, placeValue_concat]
      simp [digitValue?_digitChar]

/-- Every text with a value in a base is made of digits of this base. -/
theorem exists_digits {radix : Radix} {chars : List Char} {value : Nat}
    (found : chars.foldlM
      (fun value char => (digitValue? radix.base char).map (value * radix.base + ·)) 0 =
        some value) :
    ∃ digits : List (Fin radix.base × Bool),
      (digits.map fun digit => digitChar digit.1 digit.2) = chars := by
  induction chars using List.reverseRecOn generalizing value with
  | nil =>
      exact ⟨[], rfl⟩
  | append_singleton chars char inductionHypothesis =>
      rw [List.foldlM_append] at found
      obtain ⟨front, frontValue, last⟩ := Option.bind_eq_some_iff.mp found
      obtain ⟨digits, same⟩ := inductionHypothesis frontValue
      simp only [List.foldlM_cons, List.foldlM_nil, Option.pure_def, Option.bind_eq_bind] at last
      cases read : digitValue? radix.base char with
      | none =>
          rw [read] at last
          cases last
      | some digit =>
          obtain ⟨bound, upper, written⟩ := exists_digit read
          refine ⟨digits ++ [(⟨digit, bound⟩, upper)], ?_⟩
          rw [List.map_append, same, List.map_singleton, written]

theorem exists_radixNumeral {radix : Radix} {chars : List Char} {value : Nat} (upper : Bool)
    (found : digitsValue? radix.base chars = some value) :
    ∃ numeral : RadixNumeral,
      numeral.chars = '0' :: radix.mark upper :: chars ∧ numeral.value = value := by
  have read := found
  unfold digitsValue? at read
  split at read
  next => cases read
  next nonempty =>
    obtain ⟨digits, same⟩ := exists_digits read
    have written : digits ≠ [] := by
      rintro rfl
      rw [← same] at nonempty
      exact nonempty rfl
    have value := digitsValue?_digitChars ⟨radix, upper, digits, written⟩
    rw [RadixNumeral.digitChars, same, found] at value
    refine ⟨⟨radix, upper, digits, written⟩, ?_, (Option.some.inj value).symm⟩
    rw [RadixNumeral.chars, ← same]
    rfl

theorem radixPrefix?_mark (radix : Radix) (upper : Bool) (rest : List Char) :
    radixPrefix? ('0' :: radix.mark upper :: rest) = some (radix.base, rest) := by
  cases radix <;> cases upper <;> rfl

theorem exists_radix {chars rest : List Char} {base : Nat}
    (found : radixPrefix? chars = some (base, rest)) :
    ∃ radix upper, chars = '0' :: Radix.mark radix upper :: rest ∧ radix.base = base := by
  unfold radixPrefix? at found
  repeat' split at found
  next marked =>
    cases found
    rcases marked with rfl | rfl
    · exact ⟨.hexadecimal, false, rfl, rfl⟩
    · exact ⟨.hexadecimal, true, rfl, rfl⟩
  next marked =>
    cases found
    rcases marked with rfl | rfl
    · exact ⟨.octal, false, rfl, rfl⟩
    · exact ⟨.octal, true, rfl, rfl⟩
  next marked =>
    cases found
    rcases marked with rfl | rfl
    · exact ⟨.binary, false, rfl, rfl⟩
    · exact ⟨.binary, true, rfl, rfl⟩
  all_goals cases found

/-- A text of the characters of decimal literals has no prefix of a radix. -/
theorem radixPrefix?_literal (literal : Literal) : radixPrefix? literal.chars = none := by
  have noMark : ∀ radix upper, isLiteralChar (Radix.mark radix upper) = false := by
    intro radix upper
    cases radix <;> cases upper <;> rfl
  rw [Option.eq_none_iff_forall_not_mem]
  rintro ⟨base, rest⟩ found
  obtain ⟨radix, upper, chars, _⟩ := exists_radix found
  have marked := literal.isLiteralChar_of_mem_chars (radix.mark upper) (by simp [chars])
  rw [noMark] at marked
  cases marked

end Radix

/-! ## Texts are read -/

def withoutPlus : List Char → List Char
  | '+' :: rest => rest
  | chars => chars

/-- The text without a plus sign that stands right behind the prefix of a radix. -/
def withoutRadixSign : List Char → List Char
  | '0' :: mark :: rest =>
    '0' :: mark :: if mark ∈ ['x', 'X', 'o', 'O', 'b', 'B'] then withoutPlus rest else rest
  | chars => chars

section Text

variable {chars : List Char}

theorem withoutRadixSign_mark (radix : Radix) (upper : Bool) (rest : List Char) :
    withoutRadixSign ('0' :: radix.mark upper :: rest) =
      '0' :: radix.mark upper :: withoutPlus rest := by
  cases radix <;> cases upper <;> rfl

theorem withoutRadixSign_eq_self (plain : radixPrefix? chars = none) :
    withoutRadixSign chars = chars := by
  unfold withoutRadixSign
  split
  next mark rest =>
    have noMark : mark ∉ ['x', 'X', 'o', 'O', 'b', 'B'] := by
      intro marked
      simp only [List.mem_cons, List.not_mem_nil, or_false] at marked
      rcases marked with rfl | rfl | rfl | rfl | rfl | rfl <;> cases plain
    rw [if_neg noMark]
  next => rfl

theorem ofTrimmed_mark (radix : Radix) (upper : Bool) (rest : List Char) :
    ofTrimmed ('0' :: radix.mark upper :: rest) =
      ((digitsValue? radix.base (withoutPlus rest)).filter (· < Nat.pow 2 64)).elim
        notANumber ofNat := by
  have word : wordValue? radix.base rest =
      (digitsValue? radix.base (withoutPlus rest)).filter (· < Nat.pow 2 64) := by
    cases rest with
    | nil => rfl
    | cons char rest =>
        by_cases plus : char = '+'
        · subst plus
          rfl
        · simp [wordValue?, withoutPlus, plus]
  rw [ofTrimmed, if_neg (by simp), radixPrefix?_mark]
  simp only [word]
  split
  next value found =>
    rw [found]
    rfl
  next missing =>
    rw [missing]
    rfl

theorem digitsValue?_plus (base : Nat) (rest : List Char) :
    digitsValue? base ('+' :: rest) = none :=
  rfl

theorem withoutPlus_digitChars (numeral : RadixNumeral) :
    withoutPlus numeral.digitChars = numeral.digitChars := by
  have read := digitsValue?_digitChars numeral
  unfold withoutPlus
  split
  next rest same =>
    rw [same, digitsValue?_plus] at read
    cases read
  next => rfl

/-- Only a numeral with a radix has the prefix of one. -/
theorem exists_of_radixPrefix? {numeral : Numeral} {base : Nat} {rest : List Char}
    (found : radixPrefix? numeral.chars = some (base, rest)) :
    ∃ radixNumeral : RadixNumeral, numeral = .radix radixNumeral ∧
      radixNumeral.radix.base = base ∧ radixNumeral.digitChars = rest := by
  cases numeral with
  | empty =>
      cases found
  | infinity sign =>
      cases sign <;> cases found
  | radix numeral =>
      rw [Numeral.chars, RadixNumeral.chars, radixPrefix?_mark] at found
      cases found
      exact ⟨numeral, rfl, rfl, rfl⟩
  | decimal literal =>
      rw [Numeral.chars, radixPrefix?_literal] at found
      cases found

theorem ofTrimmed_literal (literal : Literal) :
    ofTrimmed literal.chars = literal.unscaled.toFloat literal.sign.isMinus := by
  have nonempty : ¬ literal.chars.isEmpty = true := by
    intro empty
    have read := decimalLiteral?_chars literal
    rw [List.isEmpty_iff.mp empty] at read
    cases read
  have noLetter : 'I' ∉ literal.chars := by
    intro member
    cases literal.isLiteralChar_of_mem_chars 'I' member
  have unnamed : ∀ front, literal.chars ≠ front ++ "Infinity".toList := by
    intro front same
    exact noLetter (by simp [same])
  have notPositive : ¬ (literal.chars = "Infinity".toList ∨
      literal.chars = "+Infinity".toList) := by
    rintro (same | same)
    · exact unnamed [] same
    · exact unnamed ['+'] same
  have notNegative : literal.chars ≠ "-Infinity".toList := unnamed ['-']
  rw [ofTrimmed, if_neg nonempty, radixPrefix?_literal]
  simp only
  rw [if_neg notPositive, if_neg notNegative, ofDecimalLiteral?, decimalLiteral?_chars]
  rfl

/-- The text of a numeral is read as the number that it denotes. -/
theorem Numeral.denotes_ofTrimmed {numeral : Numeral} (inRange : numeral.InRange) :
    numeral.Denotes (ofTrimmed numeral.chars) := by
  cases numeral with
  | empty =>
      have zero := isNearest_ofNat 0
      rwa [Nat.cast_zero] at zero
  | infinity sign =>
      cases sign <;> rfl
  | radix numeral =>
      have word : (some numeral.value).filter (· < Nat.pow 2 64) = some numeral.value :=
        Option.filter_eq_some_iff.mpr ⟨rfl, decide_eq_true inRange⟩
      rw [Numeral.chars, RadixNumeral.chars, ofTrimmed_mark, withoutPlus_digitChars,
        digitsValue?_digitChars, word]
      exact isNearest_ofNat numeral.value
  | decimal literal =>
      rw [Numeral.chars, ofTrimmed_literal, Numeral.Denotes, literal.value_eq]
      exact literal.unscaled.isNearest_toFloat _

/-- A plus sign behind a prefix does not matter in front of the digits of a numeral. -/
theorem ofTrimmed_of_withoutRadixSign {numeral : Numeral}
    (spelled : numeral.chars = withoutRadixSign chars) :
    ofTrimmed chars = ofTrimmed numeral.chars := by
  cases found : radixPrefix? chars with
  | none =>
      rw [spelled, withoutRadixSign_eq_self found]
  | some read =>
      obtain ⟨base, rest⟩ := read
      obtain ⟨radix, upper, rfl, rfl⟩ := exists_radix found
      rw [withoutRadixSign_mark] at spelled
      have withPrefix : radixPrefix? numeral.chars = some (radix.base, withoutPlus rest) := by
        rw [spelled, radixPrefix?_mark]
      obtain ⟨radixNumeral, _, _, digits⟩ := exists_of_radixPrefix? withPrefix
      rw [spelled, ofTrimmed_mark, ofTrimmed_mark, ← digits, withoutPlus_digitChars]

/-- What is read as a number is a numeral, once the sign behind the prefix is left out. -/
theorem exists_numeral (number : ofTrimmed chars ≠ notANumber) :
    ∃ numeral : Numeral, numeral.InRange ∧ numeral.chars = withoutRadixSign chars := by
  cases found : radixPrefix? chars with
  | some read =>
      obtain ⟨base, rest⟩ := read
      obtain ⟨radix, upper, rfl, rfl⟩ := exists_radix found
      rw [ofTrimmed_mark] at number
      cases word : (digitsValue? radix.base (withoutPlus rest)).filter (· < Nat.pow 2 64) with
      | none =>
          rw [word] at number
          exact absurd rfl number
      | some value =>
          obtain ⟨read, bound⟩ := Option.filter_eq_some_iff.mp word
          obtain ⟨numeral, spelled, rfl⟩ := exists_radixNumeral upper read
          have inRange : numeral.value < 2 ^ 64 := of_decide_eq_true bound
          exact ⟨.radix numeral, inRange,
            spelled.trans (withoutRadixSign_mark radix upper rest).symm⟩
  | none =>
      rw [withoutRadixSign_eq_self found]
      unfold ofTrimmed at number
      rw [found] at number
      split at number
      next empty => exact ⟨.empty, trivial, (List.isEmpty_iff.mp empty).symm⟩
      next =>
        simp only at number
        split at number
        next named =>
          rcases named with rfl | rfl
          · exact ⟨.infinity .none, trivial, rfl⟩
          · exact ⟨.infinity .plus, trivial, rfl⟩
        next =>
          split at number
          next named =>
            subst named
            exact ⟨.infinity .minus, trivial, rfl⟩
          next =>
            cases read : decimalLiteral? chars with
            | none =>
                rw [ofDecimalLiteral?, read] at number
                exact absurd rfl number
            | some decimal =>
                obtain ⟨literal, spelled⟩ := exists_literal read
                exact ⟨.decimal literal, trivial, spelled⟩

theorem Reads.unique {number other : Float} (reads : Reads chars number)
    (otherReads : Reads chars other) : number = other := by
  have denoted : ∀ {numeral : Numeral} {number : Float}, numeral.chars = chars →
      numeral.InRange → numeral.Denotes number → number = ofTrimmed chars := by
    rintro numeral number rfl inRange denotes
    exact denotes.unique (Numeral.denotes_ofTrimmed inRange)
  cases reads with
  | numeral numeral spelled inRange denotes =>
      cases otherReads with
      | numeral otherNumeral otherSpelled otherInRange otherDenotes =>
          rw [denoted spelled inRange denotes, denoted otherSpelled otherInRange otherDenotes]
      | other noNumeral _ => exact absurd spelled (noNumeral numeral inRange)
  | other noNumeral undefined =>
      cases otherReads with
      | numeral otherNumeral otherSpelled otherInRange _ =>
          exact absurd otherSpelled (noNumeral otherNumeral otherInRange)
      | other _ otherUndefined => rw [undefined, otherUndefined]

theorem reads_ofTrimmed (chars : List Char) :
    Reads (withoutRadixSign chars) (ofTrimmed chars) := by
  by_cases written :
      ∃ numeral : Numeral, numeral.InRange ∧ numeral.chars = withoutRadixSign chars
  · obtain ⟨numeral, inRange, spelled⟩ := written
    refine .numeral numeral spelled inRange ?_
    rw [ofTrimmed_of_withoutRadixSign spelled]
    exact Numeral.denotes_ofTrimmed inRange
  · refine .other (fun numeral inRange spelled => written ⟨numeral, inRange, spelled⟩) ?_
    by_contra number
    exact written (exists_numeral number)

/-- The number of a text is the one that its numeral denotes, and not a number if the text is no
numeral, with blanks around the text left out. Only a plus sign that stands right behind the prefix
of a radix is left out as well. -/
theorem reads_iff_ofText (text : String) (number : Float) :
    Reads (withoutRadixSign (Text.trimChars text.toList)) number ↔ number = ofText text := by
  have reads := reads_ofTrimmed (Text.trimChars text.toList)
  constructor
  · exact fun otherReads => otherReads.unique reads
  · rintro rfl
    exact reads

/-- A text with a plus sign behind the prefix is no numeral, but it is read as one. -/
theorem signedHexadecimal_isRead :
    Reads "0x+10".toList notANumber ∧ ofText "0x+10" = ofNat 16 ∧ ofNat 16 ≠ notANumber := by
  refine ⟨.other (fun numeral _ spelled => ?_) rfl, ?_, ?_⟩
  · have withPrefix : radixPrefix? numeral.chars = some (16, "+10".toList) := by
      rw [spelled]
      rfl
    obtain ⟨radixNumeral, _, _, digits⟩ := exists_of_radixPrefix? withPrefix
    have read := digitsValue?_digitChars radixNumeral
    rw [digits] at read
    cases read
  · rfl
  · intro same
    have sameTest := congrArg isNaN same
    revert sameTest
    decide +kernel

end Text

end NoteBase.Number
