import NoteBase.Proofs.Json.Numbers

/-!
# Scalars are read as they are written

A quoted text is read as the text, whatever characters it has. So every scalar of JSON is read as it
is written, up to the doubles that do not read back.
-/

namespace NoteBase.Json

/-! ## Texts -/

theorem takeUnit?_control {code : Nat} (control : code < 0x20) (rest : List Char) :
    takeUnit? ('0' :: '0' :: hexDigit (code / 16) :: hexDigit code :: rest) =
      some (code, rest) := by
  have value : ∀ code : Fin 0x20,
      Number.digitsValue? 16 ['0', '0', hexDigit (code / 16), hexDigit code] =
        some code.val := by
    decide
  rw [takeUnit?, value ⟨code, control⟩]
  rfl

theorem takeEscaped?_control {char : Char} (control : char.toNat < 0x20) (rest : List Char) :
    takeEscaped?
        ('0' :: '0' :: hexDigit (char.toNat / 16) :: hexDigit char.toNat :: rest) =
      some (some char, rest) := by
  have notHigh : isHighSurrogate char.toNat = false := by
    simp only [isHighSurrogate, Bool.and_eq_false_imp, decide_eq_true_eq]
    omega
  have notLow : isLowSurrogate char.toNat = false := by
    simp only [isLowSurrogate, Bool.and_eq_false_imp, decide_eq_true_eq]
    omega
  rw [takeEscaped?, takeUnit?_control control]
  simp [notHigh, notLow, Char.ofNat_toNat]

/-- The characters that stand for one character are taken as that character. -/
theorem takeText?_escapeChar (fuel : Nat) (char : Char) (rest : List Char) :
    takeText? (fuel + 1) (escapeChar char ++ rest) =
      (takeText? fuel rest).map fun (chars, rest) => (some char :: chars, rest) := by
  have bound : ∀ result : Option (List (Option Char) × List Char),
      (result.bind fun (chars, rest) => some (some char :: chars, rest)) =
        result.map fun (chars, rest) => (some char :: chars, rest) := by
    intro result
    cases result <;> rfl
  unfold escapeChar
  split
  · next quote =>
    subst quote
    exact bound _
  split
  · next slash =>
    subst slash
    exact bound _
  split
  · next same =>
    subst same
    exact bound _
  split
  · next same =>
    subst same
    exact bound _
  split
  · next same =>
    subst same
    exact bound _
  split
  · next same =>
    subst same
    exact bound _
  split
  · next same =>
    subst same
    exact bound _
  split
  · next control =>
    simp only [List.cons_append, List.nil_append, takeText?, takeEscaped?_control control]
    exact bound _
  · next noQuote noSlash _ _ _ _ _ printable =>
    have plain : ¬ (char.toNat < 0x20 ∨ char = '\\') := by
      rintro (control | slash)
      · exact printable control
      · exact noSlash slash
    rw [List.singleton_append, takeText?]
    · rw [if_neg plain]
      exact bound _
    · exact noQuote
    · exact fun _ slash => absurd slash noSlash
    · exact fun _ _ slash => absurd slash noSlash

theorem takeText?_flatMap_escapeChar (text rest : List Char) {fuel : Nat}
    (enough : text.length < fuel) :
    takeText? fuel (text.flatMap escapeChar ++ '"' :: rest) = some (text.map some, rest) := by
  induction text generalizing fuel with
  | nil =>
      obtain ⟨fuel, rfl⟩ : ∃ less, fuel = less + 1 := ⟨fuel - 1, by omega⟩
      rfl
  | cons char text inductionHypothesis =>
      obtain ⟨fuel, rfl⟩ : ∃ less, fuel = less + 1 := ⟨fuel - 1, by omega⟩
      rw [List.flatMap_cons, List.append_assoc, takeText?_escapeChar,
        inductionHypothesis (Nat.lt_of_succ_lt_succ enough)]
      rfl

theorem atomOfText_map_some (text : List Char) :
    atomOfText (text.map some) = .ofText (String.ofList text) := by
  have all : (text.map some).mapM id = some text := by
    induction text with
    | nil =>
        rfl
    | cons char text inductionHypothesis =>
        simp [inductionHypothesis]
  rw [atomOfText, all]

theorem length_le_flatMap_escapeChar (text : List Char) :
    text.length ≤ (text.flatMap escapeChar).length := by
  have nonempty : ∀ char, 1 ≤ (escapeChar char).length := by
    intro char
    unfold escapeChar
    repeat' split
    all_goals simp
  induction text with
  | nil =>
      exact Nat.zero_le _
  | cons char text inductionHypothesis =>
      have one := nonempty char
      rw [List.flatMap_cons, List.length_append, List.length_cons]
      omega

theorem takeQuoted?_quotedChars (text : String) (rest : List Char) :
    takeQuoted? (quotedChars text ++ rest) = some (.ofText text, rest) := by
  have enough : text.toList.length <
      (text.toList.flatMap escapeChar ++ '"' :: rest).length + 1 := by
    have escaped := length_le_flatMap_escapeChar text.toList
    rw [List.length_append]
    omega
  have taken := takeText?_flatMap_escapeChar text.toList rest enough
  simp only [quotedChars, List.cons_append, List.append_assoc, List.nil_append, takeQuoted?, taken,
    Option.map_some, atomOfText_map_some, String.ofList_toList]

theorem takeQuoted?_inversion {chars rest : List Char} {atom : Atom}
    (taken : takeQuoted? chars = some (atom, rest)) :
    atom = .void ∨ ∃ text, atom = .ofText text := by
  unfold takeQuoted? at taken
  split at taken
  · obtain ⟨⟨text, after⟩, _, same⟩ := Option.map_eq_some_iff.mp taken
    cases same
    unfold atomOfText
    split
    · exact .inr ⟨_, rfl⟩
    · exact .inl rfl
  · cases taken

theorem takeAtom?_inversion {chars rest : List Char} {atom : Atom}
    (taken : takeAtom? chars = some (atom, rest)) : IsTaken atom := by
  unfold takeAtom? at taken
  split at taken
  · cases taken
    exact .inr ⟨.null, trivial, rfl⟩
  · cases taken
    exact .inr ⟨.bool true, trivial, rfl⟩
  · cases taken
    exact .inr ⟨.bool false, trivial, rfl⟩
  · rcases takeQuoted?_inversion taken with void | ⟨text, same⟩
    · exact .inl void
    · exact .inr ⟨.text text, trivial, same⟩
  · exact (takeNumber?_inversion taken).1

/-! ## Scalars -/

/-- A scalar that is a word if it is an integer. -/
def FitsWord : Scalar → Prop
  | .integer value => IsWord value
  | _ => True

/-- A scalar whose text is read as this scalar. -/
def IsWritten : Scalar → Prop
  | .integer value => IsWord value
  | .float value => ReadsBack value
  | _ => True

/-- The text of an integer or a double is not empty. -/
theorem exists_numeric {chars rest : List Char} {atom : Atom}
    (numeric : ∀ char ∈ chars, isNumeric char = true)
    (taken : takeNumber? chars = some (atom, rest)) :
    ∃ char others, chars = char :: others ∧ isNumeric char = true := by
  cases chars with
  | nil =>
      cases taken
  | cons char others =>
      exact ⟨char, others, rfl, numeric char List.mem_cons_self⟩

theorem isNumeric_of_mem_integerChars {value : Int} {char : Char}
    (member : char ∈ integerChars value) : isNumeric char = true := by
  unfold integerChars at member
  split at member
  · rcases List.mem_cons.mp member with rfl | inDigits
    · rfl
    · exact isNumeric_of_mem_digitChars inDigits
  · exact isNumeric_of_mem_digitChars member

/-- The text of a number consists of the characters of numbers and is taken as a whole. -/
theorem scalarChars_of_number {scalar : Scalar} (written : IsWritten scalar)
    (number : (∃ value, scalar = .integer value) ∨ ∃ value, scalar = .float value) :
    (∀ char ∈ scalarChars scalar, isNumeric char = true) ∧
      takeNumber? (scalarChars scalar) = some (.ofScalar scalar, []) := by
  rcases number with ⟨value, rfl⟩ | ⟨value, rfl⟩
  · exact ⟨fun _ member => isNumeric_of_mem_integerChars member, takeNumber?_integerChars written⟩
  · obtain ⟨finite, taken⟩ := ReadsBack.takeNumber? written
    rw [scalarChars_float, if_pos finite]
    exact ⟨fun _ member => isNumeric_of_mem_layout member, taken⟩

theorem takeAtom?_number {chars tail : List Char} {atom : Atom} (ends : EndsNumber tail)
    (numeric : ∀ char ∈ chars, isNumeric char = true)
    (taken : takeNumber? chars = some (atom, [])) :
    takeAtom? (chars ++ tail) = some (atom, tail) := by
  obtain ⟨char, others, rfl, _⟩ := exists_numeric numeric taken
  rw [takeAtom?_of_isNumeric numeric tail (List.cons_ne_nil _ _), takeNumber?_append ends taken]
  rfl

/-- A scalar is taken as it is written. -/
theorem takeAtom?_scalarChars {scalar : Scalar} {tail : List Char} (written : IsWritten scalar)
    (ends : EndsNumber tail) :
    takeAtom? (scalarChars scalar ++ tail) = some (.ofScalar scalar, tail) := by
  cases scalar with
  | null =>
      rfl
  | bool value =>
      cases value <;> rfl
  | text value =>
      exact takeQuoted?_quotedChars value tail
  | integer value =>
      obtain ⟨numeric, taken⟩ := scalarChars_of_number written (.inl ⟨value, rfl⟩)
      exact takeAtom?_number ends numeric taken
  | float value =>
      obtain ⟨numeric, taken⟩ := scalarChars_of_number written (.inr ⟨value, rfl⟩)
      exact takeAtom?_number ends numeric taken

end NoteBase.Json
