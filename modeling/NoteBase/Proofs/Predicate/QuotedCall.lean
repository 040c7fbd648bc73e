import NoteBase.Predicate.Evaluate

/-!
# Calls with a quoted argument

A predicate can be one single call `target.name('needle')`, perhaps behind `!`. This module writes
such a call out character by character and shows that reading is the inverse: `callShape?` answers
exactly the texts that are a call as a whole, and answers what the call asks.

The needle reaches up to the last quote of the text. It may hold quotes and parentheses itself, so
a text with calls at both of its ends is one call as a whole.
-/

namespace NoteBase.Predicate

/-! ## Words and paths -/

theorem isWordStart_isWordChar {char : Char} (start : isWordStart char = true) :
    isWordChar char = true := by
  simp only [isWordStart, isWordChar, Char.isAlphanum, Bool.or_eq_true] at start ⊢
  rcases start with letter | underscore
  · exact Or.inl (Or.inl letter)
  · exact Or.inr underscore

theorem isWord_chars {word : List Char} (valid : isWord word = true) :
    ∀ char ∈ word, isWordChar char = true := by
  cases word with
  | nil =>
      simp
  | cons first rest =>
      simp only [isWord, Bool.and_eq_true, List.all_eq_true] at valid
      intro char member
      rcases List.mem_cons.mp member with same | later
      · exact same ▸ isWordStart_isWordChar valid.1
      · exact valid.2 char later

theorem point_not_mem_word {word : List Char} (valid : isWord word = true) : '.' ∉ word := by
  intro member
  have isChar := isWord_chars valid '.' member
  revert isChar
  decide

/-- A dotted path is a list of words with points between them. -/
theorem isWordPath_iff (chars : List Char) :
    isWordPath chars = true ↔
      ∃ words : List (List Char), words ≠ [] ∧ (∀ word ∈ words, isWord word = true) ∧
        chars = ['.'].intercalate words := by
  rw [isWordPath, Text.pieces_mark, List.all_eq_true]
  constructor
  · intro valid
    exact ⟨chars.splitOn '.', List.splitOn_ne_nil '.' chars, valid,
      (List.intercalate_splitOn '.').symm⟩
  · rintro ⟨words, nonempty, valid, rfl⟩
    rw [List.splitOn_intercalate '.' (fun word member => point_not_mem_word (valid word member))
      nonempty]
    exact valid

/-- Characters that a dotted path is written with. -/
def isPathChar (char : Char) : Bool :=
  isWordChar char || char == '.'

/-- The characters of a dotted path are those of its words and points. -/
theorem forall_mem_intercalate {good : Char → Prop} (point : good '.')
    {words : List (List Char)} (inWords : ∀ word ∈ words, ∀ char ∈ word, good char) :
    ∀ char ∈ ['.'].intercalate words, good char := by
  induction words with
  | nil =>
      simp
  | cons word rest inductionHypothesis =>
      have inWord := inWords word List.mem_cons_self
      have inRest := inductionHypothesis fun other member =>
        inWords other (List.mem_cons_of_mem word member)
      cases rest with
      | nil =>
          simpa using inWord
      | cons next others =>
          intro char member
          rw [List.intercalate_cons_cons, List.append_assoc, List.mem_append] at member
          rcases member with front | back
          · exact inWord char front
          · rcases List.mem_append.mp back with isPoint | later
            · exact List.mem_singleton.mp isPoint ▸ point
            · exact inRest char later

theorem intercalate_pathChars {words : List (List Char)}
    (valid : ∀ word ∈ words, isWord word = true) :
    ∀ char ∈ ['.'].intercalate words, isPathChar char = true := by
  refine forall_mem_intercalate (by decide) fun word member char inWord => ?_
  simp [isPathChar, isWord_chars (valid word member) char inWord]

/-! ## The parts of a call -/

private theorem take_target (target name : List Char) :
    (target ++ '.' :: name).take ((target ++ '.' :: name).length - name.length - 1) = target := by
  have count : (target ++ '.' :: name).length - name.length - 1 = target.length := by
    simp only [List.length_append, List.length_cons]
    omega
  rw [count, List.take_left]

/-- A call is split at the last point of the path that it starts with. -/
theorem splitCall?_eq_some_iff {chars target name rest : List Char} :
    splitCall? chars = some (target, name, rest) ↔
      isWordPath target = true ∧ isWord name = true ∧ chars = target ++ '.' :: name ++ rest ∧
        ∀ char ∈ rest.head?, isPathChar char = false := by
  constructor
  · intro found
    simp only [splitCall?, Option.ite_none_right_eq_some, Option.some.injEq, Prod.mk.injEq,
      Bool.and_eq_true, decide_eq_true_eq] at found
    obtain ⟨⟨⟨targetValid, nameValid⟩, shorter⟩, targetEq, nameEq, restEq⟩ := found
    obtain ⟨front, pathEq⟩ := Record.eq_append_behindLast shorter
    rw [nameEq] at pathEq
    have frontEq : front = target := by
      rw [← targetEq, nameEq, pathEq, take_target]
    rw [targetEq] at targetValid
    rw [nameEq] at nameValid
    refine ⟨targetValid, nameValid, ?_, ?_⟩
    · rw [← frontEq, ← restEq, ← pathEq]
      exact List.takeWhile_append_dropWhile.symm
    · intro char head
      have outside := List.head?_dropWhile_not isPathChar chars
      rw [← restEq] at head
      rw [show (fun char => isWordChar char || char == '.') = isPathChar from rfl,
        Option.mem_def] at head
      rw [head] at outside
      simpa using outside
  · rintro ⟨targetValid, nameValid, rfl, outside⟩
    obtain ⟨words, _, wordsValid, targetEq⟩ := (isWordPath_iff target).mp targetValid
    have pathChars : ∀ char ∈ target ++ '.' :: name, isPathChar char = true := by
      intro char member
      rcases List.mem_append.mp member with inTarget | behind
      · exact intercalate_pathChars wordsValid char (targetEq ▸ inTarget)
      · rcases List.mem_cons.mp behind with point | inName
        · subst point
          decide
        · simp [isPathChar, isWord_chars nameValid char inName]
    have stops : rest.takeWhile isPathChar = [] ∧ rest.dropWhile isPathChar = rest := by
      cases rest with
      | nil =>
          simp
      | cons char others =>
          simp [outside char rfl]
    have taken : (target ++ '.' :: name ++ rest).takeWhile isPathChar = target ++ '.' :: name := by
      rw [List.takeWhile_append_of_pos pathChars, stops.1, List.append_nil]
    have dropped : (target ++ '.' :: name ++ rest).dropWhile isPathChar = rest := by
      rw [List.dropWhile_append_of_pos pathChars, stops.2]
    have behind : Record.behindLast '.' (target ++ '.' :: name) = name :=
      Record.behindLast_append target (point_not_mem_word nameValid)
    simp only [splitCall?, show (fun char => isWordChar char || char == '.') = isPathChar from rfl,
      taken, dropped, behind, take_target]
    simp [targetValid, nameValid]
    omega

/-- An argument is what stands between a quote behind the parenthesis and a quote in front of the
closing one. -/
theorem quotedArgument?_eq_some_iff {chars needle : List Char} :
    quotedArgument? chars = some needle ↔
      needle ≠ [] ∧ '\n' ∉ needle ∧ ∃ opening closing,
        isQuote opening = true ∧ isQuote closing = true ∧
          chars = '(' :: opening :: needle ++ [closing, ')'] := by
  constructor
  · intro found
    unfold quotedArgument? at found
    split at found
    · next opening rest =>
      split at found
      · next openingQuote =>
        split at found
        · next closing reversed reverseEq =>
          simp only [Option.ite_none_right_eq_some, Option.some.injEq, Bool.and_eq_true,
            Bool.not_eq_true', List.isEmpty_eq_false_iff, List.contains_eq_mem,
            decide_eq_false_iff_not] at found
          obtain ⟨⟨⟨closingQuote, nonempty⟩, noBreak⟩, rfl⟩ := found
          have restEq := congrArg List.reverse reverseEq
          refine ⟨by simpa using nonempty, by simpa using noBreak, opening, closing,
            openingQuote, closingQuote, ?_⟩
          simpa using restEq
        · cases found
      · cases found
    · cases found
  · rintro ⟨nonempty, noBreak, opening, closing, openingQuote, closingQuote, rfl⟩
    simp [quotedArgument?, openingQuote, closingQuote, nonempty, noBreak]

/-! ## Calls -/

/-- A call with a quoted argument, with everything that it is written with. -/
structure QuotedCall where
  negated : Bool
  /-- The words of the path that the call is made on. -/
  target : List (List Char)
  name : List Char
  opening : Char
  needle : List Char
  closing : Char

namespace QuotedCall

def path (call : QuotedCall) : List Char :=
  ['.'].intercalate call.target

def chars (call : QuotedCall) : List Char :=
  (if call.negated then ['!'] else []) ++
    (call.path ++ '.' :: call.name ++
      ('(' :: call.opening :: call.needle ++ [call.closing, ')']))

/-- The parts of a call are words, quotes, and some text on one line. -/
structure WellFormed (call : QuotedCall) : Prop where
  target_ne_nil : call.target ≠ []
  target_words : ∀ word ∈ call.target, isWord word = true
  name_word : isWord call.name = true
  opening_quote : isQuote call.opening = true
  closing_quote : isQuote call.closing = true
  needle_ne_nil : call.needle ≠ []
  needle_line : '\n' ∉ call.needle

/-- What a call asks of a record, if there is a test with its name: whether the note has the
property `needle`, or whether the text of a property passes a test. -/
def test? (call : QuotedCall) : Option (Record → Bool) :=
  if call.path = "file".toList ∧ call.name = "hasProperty".toList then
    some fun record => record.hasProperty (String.ofList call.needle)
  else
    (TextTest.ofName? (String.ofList call.name)).map fun test record =>
      test.holds call.needle (testedText record (String.ofList call.path))

def shape? (call : QuotedCall) : Option Shape :=
  if call.path = "file".toList ∧ call.name = "hasProperty".toList then
    some (.hasProperty call.negated (String.ofList call.needle))
  else
    (TextTest.ofName? (String.ofList call.name)).map fun test =>
      .textTest call.negated (String.ofList call.path) test (String.ofList call.needle)

/-- A call has a shape if it asks something, and the shape holds if the answer says so. -/
theorem holds_of_shape? (now : Calendar.Moment) (record : Record) (text : String)
    (call : QuotedCall) :
    call.shape?.map (Shape.holds now record text) =
      call.test?.map fun test => negateIf call.negated (test record) := by
  by_cases asksForProperty :
      call.path = "file".toList ∧ call.name = "hasProperty".toList
  · rw [shape?, test?, if_pos asksForProperty, if_pos asksForProperty]
    rfl
  · rw [shape?, test?, if_neg asksForProperty, if_neg asksForProperty]
    cases TextTest.ofName? (String.ofList call.name) with
    | none =>
        rfl
    | some test =>
        simp only [Option.map_some, Shape.holds, String.toList_ofList]

/-- A path starts with the start of its first word. -/
theorem exists_path_eq_cons {call : QuotedCall} (valid : call.WellFormed) :
    ∃ first tail, call.path = first :: tail ∧ isWordStart first = true := by
  obtain ⟨word, others, targetEq⟩ := List.exists_cons_of_ne_nil valid.target_ne_nil
  have wordValid : isWord word = true :=
    valid.target_words word (targetEq ▸ List.mem_cons_self)
  cases word with
  | nil =>
      simp [isWord] at wordValid
  | cons first rest =>
      have start : isWordStart first = true := by
        simp only [isWord, Bool.and_eq_true] at wordValid
        exact wordValid.1
      cases others with
      | nil =>
          exact ⟨first, rest, by simp [path, targetEq], start⟩
      | cons next remaining =>
          exact ⟨first, rest ++ '.' :: ['.'].intercalate (next :: remaining), by
            simp [path, targetEq, List.intercalate_cons_cons], start⟩

theorem exists_chars_eq_append (call : QuotedCall) : ∃ inner, call.chars = inner ++ [')'] :=
  ⟨(if call.negated then ['!'] else []) ++
    (call.path ++ '.' :: call.name ++ '(' :: call.opening :: call.needle ++ [call.closing]), by
    simp [chars]⟩

theorem name_isInfix (call : QuotedCall) : call.name <:+: call.chars :=
  ⟨(if call.negated then ['!'] else []) ++ (call.path ++ ['.']),
    '(' :: call.opening :: call.needle ++ [call.closing, ')'], by simp [chars]⟩

theorem splitBang_chars {call : QuotedCall} (valid : call.WellFormed) :
    splitBang call.chars = (call.negated, call.path ++ '.' :: call.name ++
      ('(' :: call.opening :: call.needle ++ [call.closing, ')'])) := by
  obtain ⟨first, tail, pathEq, start⟩ := exists_path_eq_cons valid
  have firstNotBang : first ≠ '!' := by
    rintro rfl
    revert start
    decide
  cases negated : call.negated with
  | true =>
      simp [chars, negated, splitBang]
  | false =>
      simp [chars, negated, splitBang, pathEq, firstNotBang]

theorem callShape?_chars {call : QuotedCall} (valid : call.WellFormed) :
    callShape? call.chars = call.shape? := by
  have argument : quotedArgument?
      ('(' :: call.opening :: call.needle ++ [call.closing, ')']) = some call.needle :=
    quotedArgument?_eq_some_iff.mpr ⟨valid.needle_ne_nil, valid.needle_line, call.opening,
      call.closing, valid.opening_quote, valid.closing_quote, rfl⟩
  have parts : splitCall? (call.path ++ '.' :: call.name ++
      ('(' :: call.opening :: call.needle ++ [call.closing, ')'])) =
      some (call.path, call.name,
        '(' :: call.opening :: call.needle ++ [call.closing, ')']) := by
    refine splitCall?_eq_some_iff.mpr ⟨?_, valid.name_word, rfl, ?_⟩
    · exact (isWordPath_iff call.path).mpr
        ⟨call.target, valid.target_ne_nil, valid.target_words, rfl⟩
    · intro char head
      simp only [List.cons_append, List.head?_cons, Option.mem_def, Option.some.injEq] at head
      subst head
      decide
  rw [callShape?, splitBang_chars valid, shape?]
  -- The two names stay names: `simp` would spell them out, and then compare them by evaluation.
  generalize "file".toList = file
  generalize "hasProperty".toList = asks
  simp only [parts, argument, Option.bind_eq_bind, Option.bind_some]
  split
  · rfl
  · cases TextTest.ofName? (String.ofList call.name) with
    | none =>
        rfl
    | some test =>
        rfl

theorem exists_of_callShape? {text : List Char} {shape : Shape}
    (found : callShape? text = some shape) :
    ∃ call : QuotedCall, call.WellFormed ∧ call.chars = text ∧ call.shape? = some shape := by
  have written : text = (if (splitBang text).1 then ['!'] else []) ++ (splitBang text).2 := by
    unfold splitBang
    split <;> rfl
  have taken := found
  unfold callShape? at taken
  generalize "file".toList = file at taken
  generalize "hasProperty".toList = asks at taken
  simp only [Option.bind_eq_bind, Option.bind_eq_some_iff] at taken
  obtain ⟨⟨target, name, argument⟩, parts, needle, quoted, _⟩ := taken
  change quotedArgument? argument = some needle at quoted
  obtain ⟨targetValid, nameValid, textEq, _⟩ := splitCall?_eq_some_iff.mp parts
  obtain ⟨nonempty, noBreak, opening, closing, openingQuote, closingQuote, argumentEq⟩ :=
    quotedArgument?_eq_some_iff.mp quoted
  obtain ⟨words, wordsNonempty, wordsValid, targetEq⟩ := (isWordPath_iff target).mp targetValid
  let call : QuotedCall :=
    ⟨(splitBang text).1, words, name, opening, needle, closing⟩
  have valid : call.WellFormed :=
    ⟨wordsNonempty, wordsValid, nameValid, openingQuote, closingQuote, nonempty, noBreak⟩
  have charsEq : call.chars = text := by
    rw [written, textEq, targetEq, argumentEq]
    rfl
  refine ⟨call, valid, charsEq, ?_⟩
  rw [← callShape?_chars valid, charsEq, found]

end QuotedCall

end NoteBase.Predicate
