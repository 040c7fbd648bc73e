import NoteBase.Proofs.Json.Scalars
import NoteBase.Proofs.Number.Numeral
import NoteBase.Proofs.Number.Shortest

/-!
# Every scalar is taken as a whole

Whatever a scalar is, its text is taken from the front up to its end. What is read need not be the
scalar: an integer may be too large for one, and a double may be read as another one or as none.
-/

namespace NoteBase

namespace Json

/-! ## Numbers -/

/-- Characters that are taken as a number, behind either sign. -/
def IsNumeral (chars : List Char) : Prop :=
  ∀ negative, ∃ atom, takeUnsigned? negative chars = some (atom, [])

theorem isNumeral_of_parts {whole behind rest : List Char} {fraction : Option (List Char)}
    {exponent : Option Int} (digits : ∀ char ∈ whole, char.isDigit = true)
    (leading : isWhole whole = true) (noDigit : ∀ char ∈ behind.head?, char.isDigit = false)
    (fractionTaken : takeFraction? behind = some (fraction, rest))
    (exponentTaken : takeExponent? rest = some (exponent, [])) : IsNumeral (whole ++ behind) := by
  intro negative
  have taken := (Text.takeWhile_append_of_head noDigit whole).trans (Text.takeWhile_eq_self digits)
  have dropped := Text.dropWhile_append_of_head noDigit whole
  rw [Text.dropWhile_eq_nil digits, List.nil_append] at dropped
  refine ⟨numberAtom negative whole fraction exponent, ?_⟩
  rw [takeUnsigned?, taken, dropped, if_pos leading, fractionTaken]
  simp only [Option.bind_eq_bind, Option.bind_some, exponentTaken]

theorem noDigit_nil : ∀ char ∈ ([] : List Char).head?, char.isDigit = false :=
  nofun

theorem noDigit_cons {mark : Char} {rest : List Char} (noDigit : mark.isDigit = false) :
    ∀ char ∈ (mark :: rest).head?, char.isDigit = false := by
  rintro char ⟨⟩
  exact noDigit

theorem isWhole_of_head {chars : List Char} (nonempty : chars ≠ [])
    (leading : chars.head? ≠ some '0') : isWhole chars = true := by
  simp [isWhole, nonempty, leading]

theorem isWhole_singleton (digit : Char) : isWhole [digit] = true := by
  simp [isWhole]

theorem takeFraction?_point {places rest : List Char}
    (digits : ∀ char ∈ places, char.isDigit = true) (nonempty : places ≠ [])
    (noDigit : ∀ char ∈ rest.head?, char.isDigit = false) :
    takeFraction? ('.' :: (places ++ rest)) = some (some places, rest) := by
  have taken := (Text.takeWhile_append_of_head noDigit places).trans
    (Text.takeWhile_eq_self digits)
  have dropped := Text.dropWhile_append_of_head noDigit places
  rw [Text.dropWhile_eq_nil digits, List.nil_append] at dropped
  simp [takeFraction?, taken, dropped, nonempty]

theorem takeExponent?_signed (negative plusSign : Bool) (power : Nat) :
    ∃ exponent, takeExponent? ('e' ::
      ((if negative then ['-'] else if plusSign then ['+'] else []) ++ Number.digitChars power)) =
        some (exponent, []) := by
  have digits := Number.isDigit_digitChars power
  obtain ⟨first, rest, chars, digit⟩ := Number.exists_digitChars power
  have unsigned := @Number.splitSign_of_isDigit first rest digit
  rw [← chars] at unsigned
  have split : Number.splitSign ((if negative then ['-'] else if plusSign then ['+'] else []) ++
      Number.digitChars power) = (negative, Number.digitChars power) := by
    cases negative
    · cases plusSign
      · exact unsigned
      · rfl
    · rfl
  have nonempty : (Number.digitChars power).isEmpty = false := by
    rw [chars]
    rfl
  rw [takeExponent?, if_pos (.inl rfl), split]
  simp [Text.takeWhile_eq_self digits, Text.dropWhile_eq_nil digits, nonempty]

/-- Digits with the point where the exponent puts it are taken, also with a fraction of zero behind
a whole number. -/
theorem isNumeral_positional {decimal : Number.Decimal} (positive : 0 < decimal.digits) :
    IsNumeral (Number.positional decimal ++
      (if 0 ≤ decimal.exponent then ['.', '0'] else [])) := by
  have digits := Number.isDigit_digitChars decimal.digits
  have nonempty : Number.digitChars decimal.digits ≠ [] := Nat.toDigits_ne_nil
  have leading := head?_digitChars positive
  have zeros : ∀ count, ∀ char ∈ List.replicate count '0', char.isDigit = true := by
    intro count char member
    rw [List.eq_of_mem_replicate member]
    rfl
  unfold Number.positional
  simp only
  split
  next whole =>
    refine isNumeral_of_parts (List.forall_mem_append.mpr ⟨digits, zeros _⟩)
      (isWhole_of_head (List.append_ne_nil_of_left_ne_nil nonempty _) ?_) (noDigit_cons rfl)
      rfl rfl
    rwa [List.head?_append_of_ne_nil _ nonempty]
  next broken =>
    rw [List.append_nil]
    split
    next inside =>
      generalize pointEq : ((Number.digitChars decimal.digits).length +
        decimal.exponent : Int).toNat = point
      have pointBefore : point < (Number.digitChars decimal.digits).length := by omega
      have some : point ≠ 0 := by omega
      have placesTaken := @takeFraction?_point ((Number.digitChars decimal.digits).drop point) []
        (fun char member => digits char (List.mem_of_mem_drop member))
        (by rwa [Ne, List.drop_eq_nil_iff, Nat.not_le]) noDigit_nil
      rw [List.append_nil] at placesTaken
      refine isNumeral_of_parts (fun char member => digits char (List.mem_of_mem_take member))
        (isWhole_of_head (by simp [some, nonempty]) ?_) (noDigit_cons rfl) placesTaken rfl
      rwa [List.head?_take, if_neg some]
    next =>
      generalize (-((Number.digitChars decimal.digits).length + decimal.exponent : Int)).toNat =
        count
      have placesTaken := @takeFraction?_point (List.replicate count '0' ++
        Number.digitChars decimal.digits) [] (List.forall_mem_append.mpr ⟨zeros _, digits⟩)
        (List.append_ne_nil_of_right_ne_nil _ nonempty) noDigit_nil
      rw [List.append_nil] at placesTaken
      exact @isNumeral_of_parts ['0'] _ [] _ none (List.forall_mem_singleton.mpr rfl) rfl
        (noDigit_cons rfl) placesTaken rfl

theorem isNumeral_scientific (plusSign : Bool) (decimal : Number.Decimal) :
    IsNumeral (Number.scientific plusSign decimal) := by
  have digits := Number.isDigit_digitChars decimal.digits
  obtain ⟨leading, rest, chars, digit⟩ := Number.exists_digitChars decimal.digits
  have single : ∀ char ∈ [leading], char.isDigit = true := List.forall_mem_singleton.mpr digit
  obtain ⟨exponent, exponentTaken⟩ :=
    takeExponent?_signed (decide (Number.leadingPower decimal < 0)) plusSign
      (Number.leadingPower decimal).natAbs
  simp only [decide_eq_true_eq] at exponentTaken
  unfold Number.scientific
  rw [chars] at digits ⊢
  cases rest with
  | nil =>
      exact isNumeral_of_parts single (isWhole_singleton leading) (noDigit_cons (by decide)) rfl
        exponentTaken
  | cons second rest =>
      have places : ∀ char ∈ second :: rest, char.isDigit = true :=
        fun char member => digits char (List.mem_cons_of_mem _ member)
      show IsNumeral ([leading] ++ '.' :: (second :: rest ++ 'e' :: (_ ++ _)))
      exact isNumeral_of_parts single (isWhole_singleton leading) (noDigit_cons (by decide))
        (takeFraction?_point places (List.cons_ne_nil _ _) (noDigit_cons (by decide)))
        exponentTaken

theorem isNumeral_magnitudeChars (scaled : Number.Scaled) :
    IsNumeral (floatLayout.magnitudeChars scaled) := by
  unfold Number.Layout.magnitudeChars
  split
  next => exact fun negative => ⟨_, rfl⟩
  next nonzero =>
    have positive := Number.Decimal.digits_shortest_pos (Nat.pos_of_ne_zero nonzero)
      floatLayout.tie
    generalize Number.Decimal.shortest floatLayout.tie scaled = decimal at positive ⊢
    have fixedOrNot : ∀ fixed : Bool, IsNumeral (if fixed then
        Number.positional decimal ++
          (if floatLayout.pointZero && 0 ≤ decimal.exponent then ['.', '0'] else [])
        else Number.scientific floatLayout.plusSign decimal) := by
      intro fixed
      split
      · simpa [floatLayout] using isNumeral_positional positive
      · exact isNumeral_scientific _ _
    exact fixedOrNot _

section Signed

variable {chars : List Char}

theorem IsNumeral.takeNumber? (numeral : IsNumeral chars) :
    ∃ atom, Json.takeNumber? chars = some (atom, []) := by
  obtain ⟨atom, taken⟩ := numeral false
  refine ⟨atom, ?_⟩
  cases chars with
  | nil => exact taken
  | cons char rest =>
      have noSign : char ≠ '-' := by
        rintro rfl
        cases taken
      rw [takeNumber?_of_ne noSign, taken]

theorem IsNumeral.takeNumber?_minus (numeral : IsNumeral chars) :
    ∃ atom, Json.takeNumber? ('-' :: chars) = some (atom, []) :=
  numeral true

end Signed

theorem exists_takeNumber?_layout (number : Float) :
    ∃ atom, takeNumber? (floatLayout.chars number) = some (atom, []) := by
  have numeral := isNumeral_magnitudeChars (Number.Scaled.ofFloat number)
  unfold Number.Layout.chars
  simp only
  split
  · exact numeral.takeNumber?_minus
  · exact numeral.takeNumber?

theorem exists_takeNumber?_integer (value : Int) :
    ∃ atom, takeNumber? (integerChars value) = some (atom, []) := by
  have numeral : IsNumeral (Number.digitChars value.natAbs) :=
    fun negative => ⟨_, takeUnsigned?_digitChars negative value.natAbs⟩
  unfold integerChars
  split
  · exact numeral.takeNumber?_minus
  · exact numeral.takeNumber?

/-! ## Scalars -/

/-- A scalar that is no number. -/
def IsPlain : Scalar → Prop
  | .integer _ => False
  | .float _ => False
  | _ => True

theorem IsPlain.isWritten {scalar : Scalar} (plain : IsPlain scalar) : IsWritten scalar := by
  cases scalar with
  | null => trivial
  | bool _ => trivial
  | text _ => trivial
  | integer _ => exact plain.elim
  | float _ => exact plain.elim

/-- The text of a scalar is a number that is taken as a whole, or that of a scalar that is no
number. A double that is not finite is written as null. -/
theorem isNumber_or_isPlain (scalar : Scalar) :
    ((∀ char ∈ scalarChars scalar, isNumeric char = true) ∧
        ∃ atom, takeNumber? (scalarChars scalar) = some (atom, [])) ∨
      ∃ plain, IsPlain plain ∧ scalarChars scalar = scalarChars plain := by
  cases scalar with
  | null => exact .inr ⟨.null, trivial, rfl⟩
  | bool value => exact .inr ⟨.bool value, trivial, rfl⟩
  | text value => exact .inr ⟨.text value, trivial, rfl⟩
  | integer value =>
      exact .inl ⟨fun _ member => isNumeric_of_mem_integerChars member,
        exists_takeNumber?_integer value⟩
  | float value =>
      rw [scalarChars_float]
      split
      · exact .inl ⟨fun _ member => isNumeric_of_mem_layout member,
          exists_takeNumber?_layout value⟩
      · exact .inr ⟨.null, trivial, rfl⟩

/-- What the text of a scalar is read as. -/
def atomRead (scalar : Scalar) : Atom :=
  ((takeAtom? (scalarChars scalar)).map Prod.fst).getD .void

theorem atomRead_eq {scalar : Scalar} {atom : Atom}
    (taken : takeAtom? (scalarChars scalar ++ []) = some (atom, [])) : atomRead scalar = atom := by
  rw [List.append_nil] at taken
  rw [atomRead, taken]
  rfl

/-- What is read as it is written is read as the scalar. -/
theorem atomRead_of_isWritten {scalar : Scalar} (written : IsWritten scalar) :
    atomRead scalar = .ofScalar scalar :=
  atomRead_eq (takeAtom?_scalarChars written endsNumber_nil)

/-- Every scalar is taken from the front, up to what follows. -/
theorem takeAtom?_atomRead (scalar : Scalar) {tail : List Char} (ends : EndsNumber tail) :
    takeAtom? (scalarChars scalar ++ tail) = some (atomRead scalar, tail) := by
  rcases isNumber_or_isPlain scalar with ⟨numeric, atom, taken⟩ | ⟨plain, isPlain, same⟩
  · rw [atomRead_eq (takeAtom?_number endsNumber_nil numeric taken)]
    exact takeAtom?_number ends numeric taken
  · have taken := fun {tail} => @takeAtom?_scalarChars plain tail isPlain.isWritten
    rw [← same] at taken
    rw [atomRead_eq (taken endsNumber_nil)]
    exact taken ends

/-- The text of a scalar does not begin as an array or an object does, nor as the end of one. -/
theorem scalarChars_start (scalar : Scalar) :
    ∃ char rest, scalarChars scalar = char :: rest ∧ isBlank char = false ∧
      char ∉ ['[', '{', ']', '}'] := by
  rcases isNumber_or_isPlain scalar with ⟨numeric, atom, taken⟩ | ⟨plain, isPlain, same⟩
  · obtain ⟨char, rest, chars, first⟩ := exists_numeric numeric taken
    refine ⟨char, rest, chars, isBlank_of_isNumeric first, fun member => ?_⟩
    simp only [List.mem_cons, List.not_mem_nil, or_false] at member
    rcases member with rfl | rfl | rfl | rfl <;> exact absurd first (by decide)
  · rw [same]
    cases plain with
    | null => exact ⟨'n', _, rfl, by decide⟩
    | bool value =>
        cases value
        · exact ⟨'f', _, rfl, by decide⟩
        · exact ⟨'t', _, rfl, by decide⟩
    | text value => exact ⟨'"', _, rfl, by decide⟩
    | integer _ => exact isPlain.elim
    | float _ => exact isPlain.elim

end Json

end NoteBase
