import Mathlib.Algebra.Field.Rat
import Mathlib.Data.Nat.Digits.Defs
import Mathlib.Tactic.FieldSimp
import Mathlib.Tactic.NormNum
import NoteBase.Number.Literal
import NoteBase.Proofs.Text.Edges

/-!
# Decimal literals

A decimal literal as its parts, with its characters and its exact value. The reader of decimal
literals takes all of them, each as its sign and a decimal with its value, and it takes nothing
else.
-/

namespace NoteBase.Number

/-! ## Digits -/

/-- The value of digits, the first of which weighs the most. -/
def placeValue {base : Nat} (digits : List (Fin base)) : Nat :=
  Nat.ofDigits base (digits.map Fin.val).reverse

theorem placeValue_append {base : Nat} (front back : List (Fin base)) :
    placeValue (front ++ back) = placeValue front * base ^ back.length + placeValue back := by
  rw [placeValue, List.map_append, List.reverse_append, Nat.ofDigits_append, List.length_reverse,
    List.length_map, Nat.add_comm, Nat.mul_comm]
  rfl

theorem placeValue_concat {base : Nat} (digits : List (Fin base)) (digit : Fin base) :
    placeValue (digits ++ [digit]) = placeValue digits * base + digit := by
  rw [placeValue_append]
  simp [placeValue]

theorem placeValue_zeros (count : Nat) : placeValue (List.replicate count (0 : Fin 10)) = 0 := by
  rw [placeValue, List.map_replicate, List.reverse_replicate]
  exact Nat.ofDigits_replicate_zero

/-- The character of a digit below sixteen, of which the letters have two forms. -/
def digitChar (digit : Nat) (upper : Bool) : Char :=
  if upper then (Nat.digitChar digit).toUpper else Nat.digitChar digit

def decimalChars (digits : List (Fin 10)) : List Char :=
  digits.map fun (digit : Fin 10) => Nat.digitChar digit

theorem decimalChars_append (front back : List (Fin 10)) :
    decimalChars (front ++ back) = decimalChars front ++ decimalChars back :=
  List.map_append

theorem length_decimalChars (digits : List (Fin 10)) :
    (decimalChars digits).length = digits.length :=
  List.length_map _

theorem decimalChars_zeros (count : Nat) :
    decimalChars (List.replicate count 0) = List.replicate count '0' :=
  List.map_replicate

theorem isDigit_digitChar : ∀ digit : Fin 10, (Nat.digitChar digit).isDigit = true := by
  decide

theorem toNat_digitChar : ∀ digit : Fin 10, (Nat.digitChar digit).toNat - '0'.toNat = digit := by
  decide

theorem exists_digitChar {char : Char} (digit : char.isDigit = true) :
    ∃ digit : Fin 10, Nat.digitChar digit = char := by
  have range : 48 ≤ char.toNat ∧ char.toNat ≤ 57 := by
    simpa [Char.isDigit, UInt32.le_iff_toNat_le] using digit
  have offset : char.toNat - 48 < 10 := by omega
  have numbered : ∀ digit : Fin 10, (Nat.digitChar digit).toNat = digit + 48 := by decide
  refine ⟨⟨char.toNat - 48, offset⟩, Char.toNat_inj.mp ?_⟩
  rw [numbered]
  exact Nat.sub_add_cancel range.1

theorem isDigit_of_mem_decimalChars {digits : List (Fin 10)} :
    ∀ char ∈ decimalChars digits, char.isDigit = true := by
  intro char member
  obtain ⟨digit, _, rfl⟩ := List.mem_map.mp member
  exact isDigit_digitChar digit

theorem exists_decimalChars {chars : List Char} (all : ∀ char ∈ chars, char.isDigit = true) :
    ∃ digits, decimalChars digits = chars := by
  induction chars with
  | nil =>
      exact ⟨[], rfl⟩
  | cons char chars inductionHypothesis =>
      obtain ⟨digit, same⟩ := exists_digitChar (all char List.mem_cons_self)
      obtain ⟨digits, rest⟩ := inductionHypothesis fun other member =>
        all other (List.mem_cons_of_mem _ member)
      exact ⟨digit :: digits, by rw [decimalChars, List.map_cons, same, ← rest]; rfl⟩

theorem decimalValue_decimalChars (digits : List (Fin 10)) :
    decimalValue (decimalChars digits) = placeValue digits := by
  induction digits using List.reverseRecOn with
  | nil =>
      rfl
  | append_singleton digits digit inductionHypothesis =>
      rw [placeValue_concat, ← inductionHypothesis, decimalValue, decimalValue, decimalChars,
        List.map_append, List.foldl_append]
      simp only [List.map_cons, List.map_nil, List.foldl_cons, List.foldl_nil, toNat_digitChar]
      rfl

/-! ## Decimal literals -/

/-- The sign in front of digits. -/
inductive SignMark
  | none
  | plus
  | minus
  deriving DecidableEq

namespace SignMark

def chars : SignMark → List Char
  | none => []
  | plus => ['+']
  | minus => ['-']

def isMinus : SignMark → Bool
  | minus => true
  | _ => false

end SignMark

/-- The exponent of a decimal literal: its mark, a sign and at least one digit. -/
structure ExponentPart where
  upper : Bool
  sign : SignMark
  digits : List (Fin 10)
  nonempty : digits ≠ []

namespace ExponentPart

def chars (part : ExponentPart) : List Char :=
  (if part.upper then 'E' else 'e') :: (part.sign.chars ++ decimalChars part.digits)

def value (part : ExponentPart) : Int :=
  if part.sign.isMinus then -placeValue part.digits else placeValue part.digits

end ExponentPart

/-- A decimal literal: a sign, digits, a point with digits behind it, and an exponent. There may be
no digits in front of the point or none behind it, but there is at least one. -/
structure Literal where
  sign : SignMark
  whole : List (Fin 10)
  fraction : Option (List (Fin 10))
  exponent : Option ExponentPart
  nonempty : whole ++ fraction.getD [] ≠ []

namespace Literal

variable (literal : Literal)

def fractionDigits : List (Fin 10) :=
  literal.fraction.getD []

def fractionChars : List Char :=
  (literal.fraction.map fun digits => '.' :: decimalChars digits).getD []

def exponentChars : List Char :=
  (literal.exponent.map ExponentPart.chars).getD []

def power : Int :=
  (literal.exponent.map ExponentPart.value).getD 0

def unsignedChars : List Char :=
  decimalChars literal.whole ++ (literal.fractionChars ++ literal.exponentChars)

def chars : List Char :=
  literal.sign.chars ++ literal.unsignedChars

/-- The value of a literal without its sign. -/
def value : ℚ :=
  (placeValue literal.whole +
    placeValue literal.fractionDigits / 10 ^ literal.fractionDigits.length) * 10 ^ literal.power

end Literal

/-! ## Decimal literals are read -/

section Decimal

theorem splitSign_chars (sign : SignMark) {rest : List Char}
    (unsigned : ∀ char ∈ rest.head?, char ≠ '+' ∧ char ≠ '-') :
    splitSign (sign.chars ++ rest) = (sign.isMinus, rest) := by
  cases sign with
  | none =>
      cases rest with
      | nil => rfl
      | cons char rest =>
          obtain ⟨noPlus, noMinus⟩ := unsigned char rfl
          simp [SignMark.chars, SignMark.isMinus, splitSign, noPlus, noMinus]
  | plus => rfl
  | minus => rfl

theorem exists_signMark (chars : List Char) :
    ∃ sign : SignMark, sign.isMinus = (splitSign chars).1 ∧
      sign.chars ++ (splitSign chars).2 = chars := by
  unfold splitSign
  split
  · exact ⟨.minus, rfl, rfl⟩
  · exact ⟨.plus, rfl, rfl⟩
  · exact ⟨.none, rfl, rfl⟩

theorem noSign_of_isDigit {char : Char} (digit : char.isDigit = true) :
    char ≠ '+' ∧ char ≠ '-' := by
  constructor
  · rintro rfl
    cases digit
  · rintro rfl
    cases digit

theorem exponent?_chars (part : ExponentPart) : exponent? part.chars = some part.value := by
  have unsigned : ∀ char ∈ (decimalChars part.digits).head?, char ≠ '+' ∧ char ≠ '-' :=
    fun char head =>
      noSign_of_isDigit (isDigit_of_mem_decimalChars char (List.mem_of_mem_head? head))
  have all : (decimalChars part.digits).all Char.isDigit = true :=
    List.all_eq_true.mpr isDigit_of_mem_decimalChars
  have marked : (if part.upper then 'E' else 'e') = 'e' ∨
      (if part.upper then 'E' else 'e') = 'E' := by
    cases part.upper <;> decide
  have nonempty : (decimalChars part.digits).isEmpty = false := by
    rw [List.isEmpty_eq_false_iff, decimalChars, ne_eq, List.map_eq_nil_iff]
    exact part.nonempty
  rw [ExponentPart.chars, exponent?, if_pos marked]
  simp only [splitSign_chars part.sign unsigned, all, nonempty, decimalValue_decimalChars]
  simp [ExponentPart.value]

theorem exists_exponentPart {chars : List Char} {power : Int}
    (read : exponent? chars = some power) :
    ∃ part : Option ExponentPart, (part.map ExponentPart.chars).getD [] = chars := by
  unfold exponent? at read
  split at read
  · exact ⟨none, rfl⟩
  next mark rest =>
    split at read
    next marked =>
      obtain ⟨sign, _, signed⟩ := exists_signMark rest
      simp only at read
      split at read
      next => cases read
      next valid =>
        simp only [Bool.or_eq_true, not_or, Bool.not_eq_true, Bool.not_eq_false',
          List.all_eq_true] at valid
        obtain ⟨digits, same⟩ := exists_decimalChars valid.2
        have nonempty : digits ≠ [] := by
          rintro rfl
          rw [← same] at valid
          cases valid.1
        refine ⟨some ⟨decide (mark = 'E'), sign, digits, nonempty⟩, ?_⟩
        have sameMark : (if decide (mark = 'E') then 'E' else 'e') = mark := by
          rcases marked with rfl | rfl <;> decide
        rw [Option.map_some, Option.getD_some, ExponentPart.chars, sameMark, same, signed]
    next => cases read

/-- What stands behind the digits of a literal does not go on with digits. -/
theorem Literal.head?_exponentChars (literal : Literal) :
    ∀ char ∈ literal.exponentChars.head?, char.isDigit = false ∧ char ≠ '.' := by
  intro char head
  unfold exponentChars at head
  cases exponent : literal.exponent with
  | none =>
      rw [exponent] at head
      cases head
  | some part =>
      rw [exponent, Option.map_some, Option.getD_some, ExponentPart.chars, List.head?_cons,
        Option.mem_some_iff] at head
      subst head
      cases part.upper <;> decide

theorem Literal.head?_fractionChars (literal : Literal) :
    ∀ char ∈ (literal.fractionChars ++ literal.exponentChars).head?, char.isDigit = false := by
  unfold fractionChars
  cases literal.fraction with
  | none =>
      exact fun char head => (literal.head?_exponentChars char head).1
  | some digits =>
      intro char head
      cases head
      rfl

theorem Literal.noSign_unsignedChars (literal : Literal) :
    ∀ char ∈ literal.unsignedChars.head?, char ≠ '+' ∧ char ≠ '-' := by
  unfold unsignedChars
  cases whole : literal.whole with
  | cons digit digits =>
      intro char head
      cases head
      exact noSign_of_isDigit (isDigit_digitChar digit)
  | nil =>
      cases fraction : literal.fraction with
      | none =>
          exact absurd (by rw [whole, fraction]; rfl) literal.nonempty
      | some digits =>
          intro char head
          rw [fractionChars, fraction] at head
          cases head
          decide

/-- The decimal that is read from a literal: the digits without the point, and the power of ten that
moves the point back. -/
def Literal.unscaled (literal : Literal) : Decimal :=
  ⟨placeValue (literal.whole ++ literal.fractionDigits),
    literal.power - literal.fractionDigits.length⟩

theorem Literal.value_eq (literal : Literal) :
    literal.value = literal.unscaled.digits * 10 ^ literal.unscaled.exponent := by
  rw [value, unscaled, placeValue_append, zpow_sub₀ (by norm_num), zpow_natCast]
  push_cast
  field_simp

theorem exponent?_exponentChars_literal (literal : Literal) :
    exponent? literal.exponentChars = some literal.power := by
  unfold Literal.exponentChars Literal.power
  cases literal.exponent with
  | none => rfl
  | some part => exact exponent?_chars part

/-- The digits behind a point in front, and what is behind them. -/
def splitFraction : List Char → List Char × List Char
  | '.' :: rest => (rest.takeWhile Char.isDigit, rest.dropWhile Char.isDigit)
  | rest => ([], rest)

theorem decimalLiteral?_eq (chars : List Char) :
    decimalLiteral? chars =
      let whole := (splitSign chars).2.takeWhile Char.isDigit
      let behind := splitFraction ((splitSign chars).2.dropWhile Char.isDigit)
      if whole.isEmpty && behind.1.isEmpty then none
      else
        (exponent? behind.2).map fun exponent =>
          ((splitSign chars).1, ⟨decimalValue (whole ++ behind.1), exponent - behind.1.length⟩) :=
  rfl

theorem splitFraction_chars (literal : Literal) :
    splitFraction (literal.fractionChars ++ literal.exponentChars) =
      (decimalChars literal.fractionDigits, literal.exponentChars) := by
  have behind := literal.head?_exponentChars
  unfold splitFraction Literal.fractionChars Literal.fractionDigits
  cases literal.fraction with
  | none =>
      simp only [Option.map_none, Option.getD_none, List.nil_append]
      split
      next rest point =>
        rw [point] at behind
        exact absurd rfl (behind '.' rfl).2
      next => rfl
  | some digits =>
      have noDigit : ∀ char ∈ literal.exponentChars.head?, char.isDigit = false :=
        fun char head => (behind char head).1
      simp only [Option.map_some, Option.getD_some, List.cons_append]
      rw [Text.takeWhile_append_of_head noDigit, Text.dropWhile_append_of_head noDigit,
        Text.takeWhile_eq_self isDigit_of_mem_decimalChars,
        Text.dropWhile_eq_nil isDigit_of_mem_decimalChars, List.nil_append]

theorem exists_takeWhile_isDigit (chars : List Char) :
    ∃ digits, decimalChars digits = chars.takeWhile Char.isDigit :=
  exists_decimalChars fun _ member => List.mem_takeWhile_imp member

theorem exists_fraction (chars : List Char) :
    ∃ fraction : Option (List (Fin 10)),
      decimalChars (fraction.getD []) = (splitFraction chars).1 ∧
        (fraction.map fun digits => '.' :: decimalChars digits).getD [] ++ (splitFraction chars).2 =
          chars := by
  unfold splitFraction
  split
  next rest =>
    obtain ⟨digits, same⟩ := exists_takeWhile_isDigit rest
    refine ⟨some digits, same, ?_⟩
    rw [Option.map_some, Option.getD_some, same, List.cons_append,
      List.takeWhile_append_dropWhile]
  next => exact ⟨none, rfl, rfl⟩

theorem decimalLiteral?_chars (literal : Literal) :
    decimalLiteral? literal.chars = some (literal.sign.isMinus, literal.unscaled) := by
  have wholeChars : literal.unsignedChars.takeWhile Char.isDigit = decimalChars literal.whole := by
    rw [Literal.unsignedChars, Text.takeWhile_append_of_head literal.head?_fractionChars,
      Text.takeWhile_eq_self isDigit_of_mem_decimalChars]
  have behindChars : literal.unsignedChars.dropWhile Char.isDigit =
      literal.fractionChars ++ literal.exponentChars := by
    rw [Literal.unsignedChars, Text.dropWhile_append_of_head literal.head?_fractionChars,
      Text.dropWhile_eq_nil isDigit_of_mem_decimalChars, List.nil_append]
  have digits := (decimalChars_append literal.whole literal.fractionDigits).symm
  have length := length_decimalChars literal.fractionDigits
  have nonempty : ¬ ((decimalChars literal.whole).isEmpty &&
      (decimalChars literal.fractionDigits).isEmpty) = true := by
    rw [Bool.and_eq_true, List.isEmpty_iff, List.isEmpty_iff, ← List.append_eq_nil_iff, digits,
      decimalChars, List.map_eq_nil_iff]
    exact literal.nonempty
  rw [decimalLiteral?_eq, Literal.chars, splitSign_chars literal.sign literal.noSign_unsignedChars]
  simp only [wholeChars, behindChars, splitFraction_chars]
  rw [if_neg nonempty, exponent?_exponentChars_literal, digits, decimalValue_decimalChars, length]
  rfl

/-- What is read as a decimal literal is one. -/
theorem exists_literal {chars : List Char} {read : Bool × Decimal}
    (found : decimalLiteral? chars = some read) : ∃ literal : Literal, literal.chars = chars := by
  obtain ⟨sign, _, signed⟩ := exists_signMark chars
  rw [decimalLiteral?_eq] at found
  simp only at found
  generalize (splitSign chars).2 = unsigned at found signed
  obtain ⟨whole, wholeChars⟩ := exists_takeWhile_isDigit unsigned
  obtain ⟨fraction, fractionChars, behind⟩ := exists_fraction (unsigned.dropWhile Char.isDigit)
  split at found
  next => cases found
  next nonempty =>
    obtain ⟨power, tail, _⟩ := Option.map_eq_some_iff.mp found
    obtain ⟨exponent, exponentChars⟩ := exists_exponentPart tail
    have digits : whole ++ fraction.getD [] ≠ [] := by
      intro missing
      obtain ⟨noWhole, noFraction⟩ := List.append_eq_nil_iff.mp missing
      rw [← wholeChars, ← fractionChars, noWhole, noFraction] at nonempty
      exact nonempty rfl
    refine ⟨⟨sign, whole, fraction, exponent, digits⟩, ?_⟩
    rw [Literal.chars, Literal.unsignedChars, Literal.fractionChars, Literal.exponentChars,
      wholeChars, exponentChars, behind, List.takeWhile_append_dropWhile, signed]

/-- The characters that decimal literals are made of. -/
def isLiteralChar (char : Char) : Bool :=
  char.isDigit || ['.', 'e', 'E', '+', '-'].contains char

theorem isLiteralChar_of_mem_decimalChars {digits : List (Fin 10)} :
    ∀ char ∈ decimalChars digits, isLiteralChar char = true := by
  intro char member
  rw [isLiteralChar, isDigit_of_mem_decimalChars char member, Bool.true_or]

theorem isLiteralChar_of_mem_sign {sign : SignMark} :
    ∀ char ∈ sign.chars, isLiteralChar char = true := by
  cases sign <;> simp [SignMark.chars, isLiteralChar]

theorem Literal.isLiteralChar_of_mem_chars (literal : Literal) :
    ∀ char ∈ literal.chars, isLiteralChar char = true := by
  have fraction : ∀ char ∈ literal.fractionChars, isLiteralChar char = true := by
    unfold fractionChars
    cases literal.fraction with
    | none => nofun
    | some digits => exact List.forall_mem_cons.mpr ⟨rfl, isLiteralChar_of_mem_decimalChars⟩
  have exponent : ∀ char ∈ literal.exponentChars, isLiteralChar char = true := by
    unfold exponentChars
    cases literal.exponent with
    | none => nofun
    | some part =>
        refine List.forall_mem_cons.mpr ⟨by cases part.upper <;> rfl, ?_⟩
        exact List.forall_mem_append.mpr
          ⟨isLiteralChar_of_mem_sign, isLiteralChar_of_mem_decimalChars⟩
  unfold chars unsignedChars
  simp only [List.forall_mem_append]
  exact ⟨isLiteralChar_of_mem_sign, isLiteralChar_of_mem_decimalChars, fraction, exponent⟩

end Decimal

end NoteBase.Number
