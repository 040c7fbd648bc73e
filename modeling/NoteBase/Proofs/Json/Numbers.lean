import Mathlib.Algebra.Group.Int.Defs
import Mathlib.Algebra.Group.Nat.Defs
import NoteBase.Json.Reader
import NoteBase.Json.Writer
import NoteBase.Proofs.Text.Edges

/-!
# Numbers are read as they are written

The text of an integer of 64 bits is read as that integer. A double is read as the double that its
text stands for, which is not the same one for every double.
-/

namespace NoteBase.Json

/-! ## What follows a number -/

/-- A text does not go on with what might belong to a number in front of it. -/
def EndsNumber (rest : List Char) : Prop :=
  ∀ char ∈ rest.head?, char.isDigit = false ∧ char ≠ '.' ∧ char ≠ 'e' ∧ char ≠ 'E'

theorem endsNumber_nil : EndsNumber [] :=
  fun _ absent => nomatch absent

theorem endsNumber_cons {mark : Char} {rest : List Char}
    (ends : mark.isDigit = false ∧ mark ≠ '.' ∧ mark ≠ 'e' ∧ mark ≠ 'E') :
    EndsNumber (mark :: rest) := by
  intro char member
  obtain rfl := Option.some.inj member
  exact ends

section Appended

variable {tail : List Char}

theorem takeWhile_isDigit_append (ends : EndsNumber tail) (chars : List Char) :
    (chars ++ tail).takeWhile Char.isDigit = chars.takeWhile Char.isDigit :=
  Text.takeWhile_append_of_head (fun char head => (ends char head).1) chars

theorem dropWhile_isDigit_append (ends : EndsNumber tail) (chars : List Char) :
    (chars ++ tail).dropWhile Char.isDigit = chars.dropWhile Char.isDigit ++ tail :=
  Text.dropWhile_append_of_head (fun char head => (ends char head).1) chars

theorem takeFraction?_append (ends : EndsNumber tail) {chars rest : List Char}
    {fraction : Option (List Char)} (taken : takeFraction? chars = some (fraction, rest)) :
    takeFraction? (chars ++ tail) = some (fraction, rest ++ tail) := by
  unfold takeFraction? at taken
  split at taken
  · next after =>
    simp only [List.cons_append, takeFraction?, takeWhile_isDigit_append ends,
      dropWhile_isDigit_append ends]
    simp only at taken
    split at taken
    · cases taken
    · next some =>
      cases taken
      rw [if_neg some]
  · next noPoint =>
    cases taken
    unfold takeFraction?
    split
    · next after pointed =>
      cases chars with
      | nil =>
          rw [List.nil_append] at pointed
          exact absurd rfl (ends '.' (by rw [pointed]; rfl)).2.1
      | cons char chars =>
          rw [List.cons_append, List.cons.injEq] at pointed
          exact absurd (congrArg (· :: chars) pointed.1) (noPoint chars)
    · rfl

theorem splitSign_append {chars : List Char} (nonempty : chars ≠ []) :
    Number.splitSign (chars ++ tail) =
      ((Number.splitSign chars).1, (Number.splitSign chars).2 ++ tail) := by
  obtain ⟨char, rest, rfl⟩ := List.exists_cons_of_ne_nil nonempty
  simp only [List.cons_append]
  unfold Number.splitSign
  split <;> split <;> simp_all

theorem takeExponent?_append (ends : EndsNumber tail) {chars rest : List Char}
    {exponent : Option Int} (taken : takeExponent? chars = some (exponent, rest)) :
    takeExponent? (chars ++ tail) = some (exponent, rest ++ tail) := by
  cases chars with
  | nil =>
      cases taken
      cases tail with
      | nil =>
          rfl
      | cons char tail =>
          obtain ⟨_, _, notSmall, notLarge⟩ := ends char rfl
          simp [takeExponent?, notSmall, notLarge]
  | cons mark chars =>
      rw [List.cons_append]
      unfold takeExponent? at taken ⊢
      simp only at taken ⊢
      split at taken
      · next isMark =>
        split at taken
        · cases taken
        · next digits =>
          have nonempty : chars ≠ [] := by
            rintro rfl
            exact digits rfl
          cases taken
          rw [if_pos isMark, splitSign_append nonempty]
          simp only [takeWhile_isDigit_append ends, dropWhile_isDigit_append ends]
          rw [if_neg digits]
      · next notMark =>
        cases taken
        rw [if_neg notMark]
        rfl

theorem takeUnsigned?_append (ends : EndsNumber tail) {negative : Bool} {chars rest : List Char}
    {atom : Atom} (taken : takeUnsigned? negative chars = some (atom, rest)) :
    takeUnsigned? negative (chars ++ tail) = some (atom, rest ++ tail) := by
  unfold takeUnsigned? at taken ⊢
  simp only [takeWhile_isDigit_append ends, dropWhile_isDigit_append ends] at taken ⊢
  split at taken
  · next whole =>
    obtain ⟨⟨fraction, middle⟩, fractionTaken, taken⟩ := Option.bind_eq_some_iff.mp taken
    obtain ⟨⟨exponent, after⟩, exponentTaken, taken⟩ := Option.bind_eq_some_iff.mp taken
    cases taken
    simp [whole, takeFraction?_append ends fractionTaken, takeExponent?_append ends exponentTaken]
  · cases taken

theorem takeNumber?_of_ne {char : Char} {rest : List Char} (noSign : char ≠ '-') :
    takeNumber? (char :: rest) = takeUnsigned? false (char :: rest) := by
  unfold takeNumber?
  split
  · next signed =>
    exact absurd (List.cons.inj signed).1 noSign
  · rfl

/-- What follows a number does not change how it is taken. -/
theorem takeNumber?_append (ends : EndsNumber tail) {chars rest : List Char} {atom : Atom}
    (taken : takeNumber? chars = some (atom, rest)) :
    takeNumber? (chars ++ tail) = some (atom, rest ++ tail) := by
  cases chars with
  | nil =>
      cases taken
  | cons char chars =>
      rw [List.cons_append]
      by_cases sign : char = '-'
      · subst sign
        exact takeUnsigned?_append ends taken
      · rw [takeNumber?_of_ne sign] at taken ⊢
        exact takeUnsigned?_append ends taken

end Appended

/-! ## Integers -/

theorem le_ofDigitChars (digits : List Char) (value : Nat) :
    value ≤ Nat.ofDigitChars 10 digits value := by
  induction digits generalizing value with
  | nil =>
      exact Nat.le_refl value
  | cons digit digits inductionHypothesis =>
      rw [Nat.ofDigitChars_cons]
      exact Nat.le_trans (by omega) (inductionHypothesis _)

theorem appendDigits_of_lt {digits : List Char} {value : Nat}
    (fits : Nat.ofDigitChars 10 digits value < 2 ^ 64) :
    appendDigits value digits = (Nat.ofDigitChars 10 digits value, 0) := by
  induction digits generalizing value with
  | nil =>
      rfl
  | cons digit digits inductionHypothesis =>
      have longer : value * 10 + Number.decimalValue [digit] =
          10 * value + (digit.toNat - '0'.toNat) := by
        simp [Number.decimalValue, Nat.mul_comm]
      rw [Nat.ofDigitChars_cons, ← longer] at fits ⊢
      have stays := Nat.lt_of_le_of_lt (le_ofDigitChars _ _) fits
      rw [appendDigits]
      exact (if_pos stays).trans (inductionHypothesis fits)

theorem appendDigits_digitChars {value : Nat} (fits : value < 2 ^ 64) :
    appendDigits 0 (Number.digitChars value) = (value, 0) := by
  have read : Nat.ofDigitChars 10 (Number.digitChars value) 0 = value :=
    Nat.ofDigitChars_toDigits (by decide) (by decide)
  rw [appendDigits_of_lt (by rw [read]; exact fits), read]

theorem isDigit_of_mem_digitChars {value : Nat} {char : Char}
    (member : char ∈ Number.digitChars value) : char.isDigit = true :=
  Nat.isDigit_of_mem_toDigits (by decide) (by decide) member

theorem head?_digitChars {value : Nat} (positive : 0 < value) :
    (Number.digitChars value).head? ≠ some '0' := by
  unfold Number.digitChars
  induction value using Nat.base_induction 10 (by decide) with
  | single digit small =>
      rw [Nat.toDigits_of_lt_base small]
      intro zero
      exact Nat.ne_of_gt positive (Nat.digitChar_eq_zero.mp (Option.some.inj zero))
  | digit front last small frontPositive inductionHypothesis =>
      have leading := inductionHypothesis frontPositive
      rw [← Nat.toDigits_append_toDigits (by decide) frontPositive small]
      obtain ⟨char, rest, chars⟩ := List.exists_cons_of_ne_nil
        (l := Nat.toDigits 10 front) Nat.toDigits_ne_nil
      rw [chars] at leading ⊢
      exact leading

theorem isWhole_digitChars (value : Nat) : isWhole (Number.digitChars value) = true := by
  rcases Nat.eq_zero_or_pos value with rfl | positive
  · rfl
  · have nonempty : Number.digitChars value ≠ [] := Nat.toDigits_ne_nil
    simp [isWhole, nonempty, head?_digitChars positive]

theorem takeUnsigned?_digitChars (negative : Bool) (value : Nat) :
    takeUnsigned? negative (Number.digitChars value) =
      some (atomOfNumber (integerOrFloat negative (Number.digitChars value)), []) := by
  have digits : ∀ char ∈ Number.digitChars value, char.isDigit = true :=
    fun _ member => isDigit_of_mem_digitChars member
  have taken := Text.takeWhile_eq_self digits
  have dropped := Text.dropWhile_eq_nil digits
  unfold takeUnsigned?
  simp only [taken, dropped, isWhole_digitChars, if_true]
  rfl

/-- An integer of 64 bits, with or without a sign. -/
def IsWord (value : Int) : Prop :=
  -2 ^ 63 ≤ value ∧ value < 2 ^ 64

theorem takeNumber?_integerChars {value : Int} (word : IsWord value) :
    takeNumber? (integerChars value) = some (.ofScalar (.integer value), []) := by
  obtain ⟨lower, upper⟩ := word
  unfold integerChars
  split
  · next negative =>
    have read : appendDigits 0 (Number.digitChars value.natAbs) = (value.natAbs, 0) :=
      appendDigits_digitChars (by omega)
    have inRange : 0 < value.natAbs ∧ value.natAbs ≤ Nat.pow 2 63 := by
      rw [Nat.pow_eq]
      omega
    have restored : -(value.natAbs : Int) = value := by omega
    show takeUnsigned? true _ = _
    rw [takeUnsigned?_digitChars, integerOrFloat, read]
    simp only [Bool.not_true, Bool.false_eq_true, if_false]
    rw [if_pos inRange, restored]
    rfl
  · next nonnegative =>
    have read : appendDigits 0 (Number.digitChars value.natAbs) = (value.natAbs, 0) :=
      appendDigits_digitChars (by omega)
    have restored : (value.natAbs : Int) = value := by omega
    obtain ⟨char, rest, chars⟩ := List.exists_cons_of_ne_nil
      (l := Number.digitChars value.natAbs) Nat.toDigits_ne_nil
    have noSign : char ≠ '-' := by
      rintro rfl
      have inside : '-' ∈ Number.digitChars value.natAbs := by
        rw [chars]
        exact List.mem_cons_self
      exact absurd (isDigit_of_mem_digitChars inside) (by decide)
    rw [chars, takeNumber?_of_ne noSign, ← chars, takeUnsigned?_digitChars, integerOrFloat, read]
    simp only [Bool.not_false, if_true, restored]
    rfl

/-! ## What a number may be -/

/-- A scalar that JSON text can hold. -/
def IsHeld : Scalar → Prop
  | .integer value => IsWord value
  | .float value => Number.isFinite value = true
  | _ => True

/-- What an atom of JSON text can be: nothing, or a scalar that the text can hold. -/
def IsTaken (atom : Atom) : Prop :=
  atom = .void ∨ ∃ scalar, IsHeld scalar ∧ atom = .ofScalar scalar

theorem isTaken_atomOfNumber {scalar : Scalar}
    (word : ∀ value, scalar = .integer value → IsWord value) : IsTaken (atomOfNumber scalar) := by
  unfold atomOfNumber
  split
  · next value =>
    split
    · next finite =>
      exact .inr ⟨.float value, finite, rfl⟩
    · exact .inl rfl
  · next noFloat =>
    refine .inr ⟨scalar, ?_, rfl⟩
    cases scalar with
    | integer value => exact word value rfl
    | float value => exact absurd rfl (noFloat value)
    | null => trivial
    | bool _ => trivial
    | text _ => trivial

theorem appendDigits_lt (digits : List Char) (value : Nat) (fits : value < 2 ^ 64) :
    (appendDigits value digits).1 < 2 ^ 64 := by
  induction digits generalizing value with
  | nil =>
      exact fits
  | cons digit digits inductionHypothesis =>
      rw [appendDigits]
      split
      · next longer =>
        exact inductionHypothesis _ longer
      · exact fits

theorem isWord_of_integerOrFloat {negative : Bool} {digits : List Char} {value : Int}
    (read : integerOrFloat negative digits = .integer value) : IsWord value := by
  have fits := appendDigits_lt digits 0 (by decide)
  unfold integerOrFloat at read
  split at read
  · next whole appended =>
    rw [appended] at fits
    split at read
    · cases read
      exact ⟨by omega, by omega⟩
    · split at read
      · next inRange =>
        cases read
        rw [Nat.pow_eq] at inRange
        exact ⟨by omega, by omega⟩
      · cases read
  · cases read

theorem isTaken_numberAtom (negative : Bool) (whole : List Char) (fraction : Option (List Char))
    (exponent : Option Int) : IsTaken (numberAtom negative whole fraction exponent) := by
  unfold numberAtom
  apply isTaken_atomOfNumber
  intro value number
  split at number
  · exact isWord_of_integerOrFloat number
  · cases number

theorem takeFraction?_suffix {chars rest : List Char} {fraction : Option (List Char)}
    (taken : takeFraction? chars = some (fraction, rest)) : rest <:+ chars := by
  unfold takeFraction? at taken
  split at taken
  · simp only at taken
    split at taken
    · cases taken
    · cases taken
      exact (List.dropWhile_suffix _).trans (List.suffix_cons _ _)
  · cases taken
    exact List.suffix_refl _

theorem splitSign_suffix (chars : List Char) : (Number.splitSign chars).2 <:+ chars := by
  unfold Number.splitSign
  split
  · exact List.suffix_cons _ _
  · exact List.suffix_cons _ _
  · exact List.suffix_refl _

theorem takeExponent?_suffix {chars rest : List Char} {exponent : Option Int}
    (taken : takeExponent? chars = some (exponent, rest)) : rest <:+ chars := by
  unfold takeExponent? at taken
  split at taken
  · simp only at taken
    split at taken
    · split at taken
      · cases taken
      · cases taken
        exact (List.dropWhile_suffix _).trans
          ((splitSign_suffix _).trans (List.suffix_cons _ _))
    · cases taken
      exact List.suffix_refl _
  · cases taken
    exact List.suffix_refl _

theorem takeUnsigned?_inversion {negative : Bool} {chars rest : List Char} {atom : Atom}
    (taken : takeUnsigned? negative chars = some (atom, rest)) :
    IsTaken atom ∧ rest <:+ chars := by
  unfold takeUnsigned? at taken
  simp only at taken
  split at taken
  · obtain ⟨⟨fraction, middle⟩, fractionTaken, taken⟩ := Option.bind_eq_some_iff.mp taken
    obtain ⟨⟨exponent, after⟩, exponentTaken, taken⟩ := Option.bind_eq_some_iff.mp taken
    cases taken
    exact ⟨isTaken_numberAtom _ _ _ _, (takeExponent?_suffix exponentTaken).trans
      ((takeFraction?_suffix fractionTaken).trans (List.dropWhile_suffix _))⟩
  · cases taken

theorem takeNumber?_inversion {chars rest : List Char} {atom : Atom}
    (taken : takeNumber? chars = some (atom, rest)) : IsTaken atom ∧ rest <:+ chars := by
  unfold takeNumber? at taken
  split at taken
  · obtain ⟨isTaken, isSuffix⟩ := takeUnsigned?_inversion taken
    exact ⟨isTaken, isSuffix.trans (List.suffix_cons _ _)⟩
  · exact takeUnsigned?_inversion taken

/-! ## Doubles -/

/-- The text of a double reads back as the same double. -/
def ReadsBack (number : Float) : Prop :=
  ofText? (compact (float number)) = some (float number)

/-- The characters that a double is written with. -/
def isNumeric (char : Char) : Bool :=
  char.isDigit || char == '.' || char == 'e' || char == '+' || char == '-'

theorem isNumeric_of_mem_digitChars {value : Nat} {char : Char}
    (member : char ∈ Number.digitChars value) : isNumeric char = true := by
  simp [isNumeric, isDigit_of_mem_digitChars member]

theorem isNumeric_of_mem_positional {decimal : Number.Decimal} {char : Char}
    (member : char ∈ Number.positional decimal) : isNumeric char = true := by
  have digits : ∀ char ∈ Number.digitChars decimal.digits, isNumeric char = true :=
    fun _ inside => isNumeric_of_mem_digitChars inside
  unfold Number.positional at member
  simp only at member
  split at member
  · rcases List.mem_append.mp member with inDigits | inZeros
    · exact digits char inDigits
    · rw [List.eq_of_mem_replicate inZeros]
      rfl
  split at member
  · rcases List.mem_append.mp member with inWhole | inPlaces
    · exact digits char (List.mem_of_mem_take inWhole)
    · rcases List.mem_cons.mp inPlaces with rfl | inPlaces
      · rfl
      · exact digits char (List.mem_of_mem_drop inPlaces)
  · rcases List.mem_cons.mp member with rfl | member
    · rfl
    rcases List.mem_cons.mp member with rfl | member
    · rfl
    rcases List.mem_append.mp member with inZeros | inDigits
    · rw [List.eq_of_mem_replicate inZeros]
      rfl
    · exact digits char inDigits

theorem isNumeric_of_mem_scientific {plusSign : Bool} {decimal : Number.Decimal} {char : Char}
    (member : char ∈ Number.scientific plusSign decimal) : isNumeric char = true := by
  have digits : ∀ char ∈ Number.digitChars decimal.digits, isNumeric char = true :=
    fun _ inside => isNumeric_of_mem_digitChars inside
  unfold Number.scientific at member
  simp only at member
  rcases List.mem_append.mp member with inFront | inExponent
  · split at inFront
    · cases inFront
    · next leading chars =>
      rw [chars] at digits
      exact digits char inFront
    · next leading rest noTail chars =>
      rw [chars] at digits
      rcases List.mem_cons.mp inFront with rfl | inFront
      · exact digits _ List.mem_cons_self
      rcases List.mem_cons.mp inFront with rfl | inRest
      · rfl
      · exact digits char (List.mem_cons_of_mem _ inRest)
  · rcases List.mem_cons.mp inExponent with rfl | inExponent
    · rfl
    rcases List.mem_append.mp inExponent with inSign | inPower
    · split at inSign
      · rw [List.mem_singleton.mp inSign]
        rfl
      split at inSign
      · rw [List.mem_singleton.mp inSign]
        rfl
      · cases inSign
    · exact isNumeric_of_mem_digitChars inPower

theorem isNumeric_of_mem_layout {layout : Number.Layout} {number : Float} {char : Char}
    (member : char ∈ layout.chars number) : isNumeric char = true := by
  have fixedOrNot : ∀ (fixed : Bool) (decimal : Number.Decimal) (char : Char),
      (char ∈ if fixed then
        Number.positional decimal ++
          (if layout.pointZero && 0 ≤ decimal.exponent then ['.', '0'] else [])
        else Number.scientific layout.plusSign decimal) → isNumeric char = true := by
    intro fixed decimal char member
    split at member
    · rcases List.mem_append.mp member with inNumber | inZero
      · exact isNumeric_of_mem_positional inNumber
      · split at inZero
        · simp only [List.mem_cons, List.not_mem_nil, or_false] at inZero
          rcases inZero with rfl | rfl <;> rfl
        · cases inZero
    · exact isNumeric_of_mem_scientific member
  have magnitude : ∀ scaled, ∀ char ∈ layout.magnitudeChars scaled, isNumeric char = true := by
    intro scaled char member
    unfold Number.Layout.magnitudeChars at member
    split at member
    · split at member
      all_goals
        simp only [List.mem_cons, List.not_mem_nil, or_false] at member
        rcases member with rfl | rfl | rfl <;> rfl
    · exact fixedOrNot _ _ char member
  unfold Number.Layout.chars at member
  simp only at member
  split at member
  · rcases List.mem_cons.mp member with rfl | member
    · rfl
    · exact magnitude _ char member
  · exact magnitude _ char member

theorem isBlank_of_isNumeric {char : Char} (numeric : isNumeric char = true) :
    isBlank char = false := by
  cases blank : isBlank char with
  | false =>
      rfl
  | true =>
      simp only [isBlank, Bool.or_eq_true, beq_iff_eq] at blank
      rcases blank with ((rfl | rfl) | rfl) | rfl <;> exact absurd numeric (by decide)

section Numeric

variable {chars : List Char}

theorem skipBlanks_of_isNumeric (numeric : ∀ char ∈ chars, isNumeric char = true) :
    skipBlanks chars = chars := by
  cases chars with
  | nil =>
      rfl
  | cons char chars =>
      have notBlank := isBlank_of_isNumeric (numeric char List.mem_cons_self)
      rw [skipBlanks, List.dropWhile_cons, notBlank]
      rfl

theorem takeAtom?_of_isNumeric (numeric : ∀ char ∈ chars, isNumeric char = true)
    (rest : List Char) (nonempty : chars ≠ []) :
    takeAtom? (chars ++ rest) = takeNumber? (chars ++ rest) := by
  obtain ⟨char, chars, rfl⟩ := List.exists_cons_of_ne_nil nonempty
  have first := numeric char List.mem_cons_self
  rw [List.cons_append]
  unfold takeAtom?
  split
  all_goals
    first
    | rfl
    | next same =>
      obtain ⟨rfl, _⟩ := List.cons.inj same
      exact absurd first (by decide)

theorem takeValue?_of_isNumeric (numeric : ∀ char ∈ chars, isNumeric char = true)
    (nonempty : chars ≠ []) (fuel depth : Nat) :
    takeValue? (fuel + 1) depth chars =
      (takeNumber? chars).map fun (atom, rest) => (.scalar atom, rest) := by
  have asNumber := takeAtom?_of_isNumeric numeric [] nonempty
  rw [List.append_nil] at asNumber
  rw [takeValue?, skipBlanks_of_isNumeric numeric]
  split
  · exact absurd (numeric '[' List.mem_cons_self) (by decide)
  · exact absurd (numeric '{' List.mem_cons_self) (by decide)
  · rw [asNumber]

end Numeric

theorem float_of_jsonScalar {scalar : Scalar} {number : Float}
    (same : Node.jsonScalar scalar = .float number) : scalar = .float number := by
  unfold Node.jsonScalar at same
  split at same
  · split at same
    · exact same
    · cases same
  · exact same

theorem scalarChars_float (number : Float) :
    scalarChars (.float number) =
      if Number.isFinite number then floatLayout.chars number else "null".toList :=
  rfl

/-- A double that reads back is finite, and its text is taken as a whole. -/
theorem ReadsBack.takeNumber? {number : Float} (back : ReadsBack number) :
    Number.isFinite number = true ∧
      takeNumber? (floatLayout.chars number) = some (.ofScalar (.float number), []) := by
  have numeric : ∀ char ∈ floatLayout.chars number, isNumeric char = true :=
    fun _ member => isNumeric_of_mem_layout member
  unfold ReadsBack ofText? Node.ofJsonText? at back
  obtain ⟨node, read, json⟩ := Option.bind_eq_some_iff.mp back
  rw [compact, String.toList_ofList, float, Json.chars, scalarChars_float] at read
  split at read
  · next finite =>
    refine ⟨finite, ?_⟩
    unfold nodeOfChars? at read
    split at read
    · next node rest value =>
      split at read
      · next ended =>
        cases read
        have nonempty : floatLayout.chars number ≠ [] := by
          intro empty
          rw [empty] at value
          cases value
        rw [takeValue?_of_isNumeric numeric nonempty] at value
        obtain ⟨⟨atom, after⟩, taken, same⟩ := Option.map_eq_some_iff.mp value
        cases same
        obtain ⟨isTaken, isSuffix⟩ := takeNumber?_inversion taken
        rw [skipBlanks_of_isNumeric fun char member => numeric char (isSuffix.subset member),
          List.isEmpty_iff] at ended
        rw [taken, ended]
        rcases isTaken with rfl | ⟨scalar, _, rfl⟩
        · cases json
        · have value : (Atom.ofScalar scalar).value = some scalar := by cases scalar <;> rfl
          rw [Node.toJson?, value] at json
          simp only [Option.map_some, Option.some.injEq, float, Json.scalar.injEq] at json
          rw [float_of_jsonScalar json]
      · cases read
    · cases read
  · obtain rfl : node = Node.null := by
      have null : nodeOfChars? "null".toList = some Node.null := rfl
      rw [null] at read
      exact (Option.some.inj read).symm
    cases json

/-- A finite double reads back if its text is taken as a whole. -/
theorem ReadsBack.of_takeNumber? {number : Float} (finite : Number.isFinite number = true)
    (taken : Json.takeNumber? (floatLayout.chars number) =
      some (.ofScalar (.float number), [])) : ReadsBack number := by
  have numeric : ∀ char ∈ floatLayout.chars number, isNumeric char = true :=
    fun _ member => isNumeric_of_mem_layout member
  have nonempty : floatLayout.chars number ≠ [] := by
    intro empty
    rw [empty] at taken
    cases taken
  have read : nodeOfChars? (floatLayout.chars number) =
      some (.scalar (.ofScalar (.float number))) := by
    rw [nodeOfChars?, takeValue?_of_isNumeric numeric nonempty, taken]
    rfl
  have held : Node.jsonScalar (.float number) = .float number := by
    rw [Node.jsonScalar, if_pos finite]
  rw [ReadsBack, ofText?, Node.ofJsonText?, compact, String.toList_ofList, float, Json.chars,
    scalarChars_float, if_pos finite, read]
  exact congrArg (some ∘ Json.scalar) held

end NoteBase.Json
