import NoteBase.Formula

/-!
# Formulas that are evaluated like predicates

The two modes of evaluation differ only in what they read: a formula takes numeric texts and truth
values for numbers, and a member that a value does not have for `NaN`. Operators that compute with
numbers do not see the difference, since they take every operand as a number anyway. An expression
in which the others read nothing of this kind has the same value in both modes, and the number of
the formula is that of the predicate.
-/

namespace NoteBase

open Calendar (Moment)

/-! ## What is taken from an operand -/

/-- An operand is taken as a number, or as the value that it is. -/
inductive OperandUse where
  | number
  | whole

def OperandUse.read (use : OperandUse) (value : Value) : Value :=
  match use with
  | .number => .number value.toNumber
  | .whole => value

def UnaryOp.use : UnaryOp → OperandUse
  | .not => .whole
  | .negate => .number
  | .plus => .number

def BinaryOp.use : BinaryOp → OperandUse
  | .sub => .number
  | .mul => .number
  | .div => .number
  | .rem => .number
  | _ => .whole

/-- How a function takes its arguments. The functions of dates tell a text from a number. -/
def Function.use : Function → OperandUse
  | .year => .whole
  | .month => .whole
  | .day => .whole
  | .date => .whole
  | _ => .number

namespace Expr

theorem read_whole : OperandUse.whole.read = id :=
  rfl

/-- The number of a value is the one that a formula reads. -/
theorem read_formulaInput (value : Value) :
    OperandUse.number.read (formulaInput value) = OperandUse.number.read value := by
  unfold formulaInput
  split
  · next text =>
    show OperandUse.number.read (if Number.isNaN (Number.ofText text) = true then _ else _) = _
    split <;> rfl
  · rfl
  · rfl

theorem applyUnary_read (op : UnaryOp) (value : Value) :
    applyUnary op (op.use.read value) = applyUnary op value := by
  cases op <;> rfl

theorem applyBinary_read (op : BinaryOp) (left right : Value) :
    applyBinary op left (op.use.read right) = applyBinary op left right := by
  cases op <;> rfl

/-- The value of the left operand is kept only by the logical operators, which take it whole. -/
theorem binary_read (op : BinaryOp) (left : Value) (right : Except EvalError Value) :
    (if isDecided op (op.use.read left) then .ok (op.use.read left)
      else right >>= fun value => .ok (applyBinary op (op.use.read left) value)) =
    if isDecided op left then .ok left
      else right >>= fun value => .ok (applyBinary op left value) := by
  cases op <;> rfl

theorem firstNumber_read (args : List Value) :
    firstNumber (args.map OperandUse.number.read) = firstNumber args := by
  cases args <;> rfl

theorem foldNumbers_read (replaces : Float → Float → Bool) (start : Float) (args : List Value) :
    foldNumbers replaces start (args.map OperandUse.number.read) =
      foldNumbers replaces start args := by
  have numbers : (args.map OperandUse.number.read).map Value.toNumber =
      args.map Value.toNumber := by
    rw [List.map_map]
    rfl
  rw [foldNumbers, foldNumbers, numbers]

theorem callFunction_read (now : Moment) (function : Function) (args : List Value) :
    callFunction now function (args.map function.use.read) = callFunction now function args := by
  cases function <;>
    simp only [Function.use, callFunction, firstNumber_read, foldNumbers_read, read_whole,
      List.map_id]

/-! ## What both modes read alike -/

mutual

/-- Every property and every member in an expression is the same for a formula as for a predicate,
as far as it is used. -/
def ReadsAlike (now : Moment) (record : Record) (use : OperandUse) : Expr → Prop
  | .literal _ => True
  | .property path =>
    (readPath ⟨record, .formula, now⟩ path).map use.read =
      (readPath ⟨record, .predicate, now⟩ path).map use.read
  | .unary op operand => operand.ReadsAlike now record op.use
  | .binary op left right =>
    left.ReadsAlike now record op.use ∧ right.ReadsAlike now record op.use
  | .call function args => AllReadAlike now record function.use args
  | .method target name args =>
    (isHasProperty target name = true ∨ target.ReadsAlike now record .whole) ∧
      AllReadAlike now record .whole args
  | .member target name =>
    target.ReadsAlike now record .whole ∧
      ∀ value, eval now record target = .ok value →
        (readMember .formula value name).map use.read =
          (readMember .predicate value name).map use.read

def AllReadAlike (now : Moment) (record : Record) (use : OperandUse) : List Expr → Prop
  | [] => True
  | expr :: rest => expr.ReadsAlike now record use ∧ AllReadAlike now record use rest

end

/-- A property is read alike if its whole path names it, and what is used of its value is the same
for a formula. -/
theorem readsAlike_property (now : Moment) {record : Record} {use : OperandUse}
    {path : List String} {value : Value} (found : resolve record path = some (value, []))
    (kept : use.read (formulaInput value) = use.read value) :
    (Expr.property path).ReadsAlike now record use := by
  simp only [ReadsAlike, readPath, found, readMembers, Except.map, kept]

/-- As a number, a property that its whole path names is always read alike. -/
theorem readsAlike_property_number (now : Moment) {record : Record} {path : List String}
    {value : Value} (found : resolve record path = some (value, [])) :
    (Expr.property path).ReadsAlike now record .number :=
  readsAlike_property now found (read_formulaInput value)

/-! ## Evaluation -/

/-- What follows a result is the same if it uses no more than what two results have in common. -/
theorem bind_eq_of_map_eq {α β : Type} {first second : Except EvalError α} {read : α → α}
    {next : α → Except EvalError β} (same : first.map read = second.map read)
    (uses : ∀ value, next (read value) = next value) :
    (first >>= next) = second >>= next := by
  have through : ∀ result : Except EvalError α, (result >>= next) = result.map read >>= next := by
    intro result
    cases result with
    | error _ => rfl
    | ok value => exact (uses value).symm
  rw [through first, through second, same]

/-- The values of all expressions, as far as they are used. -/
theorem map_evalAllIn_cons (context : Context) (use : OperandUse) (expr : Expr) (rest : List Expr) :
    (evalAllIn context (expr :: rest)).map (List.map use.read) = (do
      let value ← (evalIn context expr).map use.read
      .ok (value :: (← (evalAllIn context rest).map (List.map use.read)))) := by
  rw [evalAllIn]
  cases evalIn context expr with
  | error _ => rfl
  | ok _ => cases evalAllIn context rest <;> rfl

section Modes

variable (now : Moment) (record : Record)

mutual

/-- What is used of the value does not depend on the mode, if nothing is read that the modes tell
apart. -/
theorem evalIn_formula_eq :
    ∀ (use : OperandUse) (expr : Expr), expr.ReadsAlike now record use →
      (evalIn ⟨record, .formula, now⟩ expr).map use.read =
        (evalIn ⟨record, .predicate, now⟩ expr).map use.read
  | _, .literal _, _ => rfl
  | _, .property _, alike => by
      rw [evalIn, evalIn]
      exact alike
  | _, .unary op operand, alike => by
      have operandSame := evalIn_formula_eq op.use operand alike
      rw [evalIn, evalIn]
      exact congrArg _ (bind_eq_of_map_eq operandSame fun value =>
        congrArg Except.ok (applyUnary_read op value))
  | _, .binary op left right, alike => by
      have leftSame := evalIn_formula_eq op.use left alike.1
      have rightSame := evalIn_formula_eq op.use right alike.2
      have rest : ∀ value,
          (evalIn ⟨record, .formula, now⟩ right >>= fun other =>
            Except.ok (applyBinary op value other)) =
          evalIn ⟨record, .predicate, now⟩ right >>= fun other =>
            Except.ok (applyBinary op value other) := fun value =>
        bind_eq_of_map_eq rightSame fun other =>
          congrArg Except.ok (applyBinary_read op value other)
      rw [evalIn, evalIn]
      simp only [rest]
      exact congrArg _ (bind_eq_of_map_eq leftSame fun value => binary_read op value _)
  | _, .call function args, alike => by
      have argsSame := evalAllIn_formula_eq function.use args alike
      rw [evalIn, evalIn]
      exact congrArg _ (bind_eq_of_map_eq argsSame fun values =>
        congrArg Except.ok (callFunction_read now function values))
  | _, .method target name args, alike => by
      have argsSame := evalAllIn_formula_eq .whole args alike.2
      simp only [read_whole, List.map_id_fun, Except.map_id, id_eq] at argsSame
      rw [evalIn, evalIn, argsSame]
      rcases alike.1 with query | targetAlike
      · simp only [query, if_true]
      · have targetSame := evalIn_formula_eq .whole target targetAlike
        simp only [read_whole, Except.map_id, id_eq] at targetSame
        rw [targetSame]
  | use, .member target name, alike => by
      have targetSame := evalIn_formula_eq .whole target alike.1
      simp only [read_whole, Except.map_id, id_eq] at targetSame
      rw [evalIn, evalIn, targetSame]
      cases found : evalIn ⟨record, .predicate, now⟩ target with
      | error _ => rfl
      | ok value => exact alike.2 value found

theorem evalAllIn_formula_eq :
    ∀ (use : OperandUse) (exprs : List Expr), AllReadAlike now record use exprs →
      (evalAllIn ⟨record, .formula, now⟩ exprs).map (List.map use.read) =
        (evalAllIn ⟨record, .predicate, now⟩ exprs).map (List.map use.read)
  | _, [], _ => rfl
  | use, expr :: rest, alike => by
      have exprSame := evalIn_formula_eq use expr alike.1
      have restSame := evalAllIn_formula_eq use rest alike.2
      rw [map_evalAllIn_cons, map_evalAllIn_cons, exprSame, restSame]

end

variable {now record}

/-- A formula that has all its inputs, and reads them like a predicate, has the predicate's
value. -/
theorem evalFormula_eq_eval {expr : Expr}
    (inputs : ∀ path ∈ expr.paths, hasInput record path = true)
    (alike : expr.ReadsAlike now record .whole) :
    evalFormula now record expr = eval now record expr := by
  have complete : expr.paths.find? (fun path => !hasInput record path) = none :=
    List.find?_eq_none.mpr fun path member => by simp [inputs path member]
  have same := evalIn_formula_eq now record .whole expr alike
  simp only [read_whole, Except.map_id, id_eq] at same
  rw [evalFormula, complete]
  exact same

end Modes

end Expr

/-! ## Typed inputs -/

/-- A value that is neither missing in a formula nor a number for it alone. -/
structure Value.IsTyped (value : Value) : Prop where
  notNull : value ≠ .null
  notEmpty : value ≠ .text ""
  noTruth : ∀ truth, value ≠ .bool truth
  noNumber : ∀ text, value = .text text → Number.isNaN (Number.ofText text) = true

namespace Expr

mutual

/-- Whether a member of a value is read anywhere in an expression. -/
def readsMember : Expr → Bool
  | .literal _ => false
  | .property _ => false
  | .unary _ operand => operand.readsMember
  | .binary _ left right => left.readsMember || right.readsMember
  | .call _ args => anyReadsMember args
  | .method target _ args => target.readsMember || anyReadsMember args
  | .member _ _ => true

def anyReadsMember : List Expr → Bool
  | [] => false
  | expr :: rest => expr.readsMember || anyReadsMember rest

end

theorem formulaInput_of_isTyped {value : Value} (typed : value.IsTyped) :
    formulaInput value = value := by
  unfold formulaInput
  split
  · next text => exact if_pos (typed.noNumber text rfl)
  · next truth => exact absurd rfl (typed.noTruth truth)
  · rfl

theorem isBlank_of_isTyped {value : Value} (typed : value.IsTyped) : value.isBlank = false := by
  cases value with
  | null => exact absurd rfl typed.notNull
  | text text => exact decide_eq_false fun empty => typed.notEmpty (congrArg Value.text empty)
  | bool _ => rfl
  | number _ => rfl
  | date _ => rfl
  | list _ => rfl

section Typed

variable (now : Moment) {record : Record}

mutual

theorem readsAlike_of_typed :
    ∀ (use : OperandUse) (expr : Expr), expr.readsMember = false →
      (∀ path ∈ expr.paths, ∃ value, resolve record path = some (value, []) ∧ value.IsTyped) →
        expr.ReadsAlike now record use
  | _, .literal _, _, _ => trivial
  | use, .property path, _, typed => by
      obtain ⟨value, found, valueTyped⟩ := typed path (List.mem_singleton.mpr rfl)
      exact readsAlike_property now found (congrArg use.read (formulaInput_of_isTyped valueTyped))
  | _, .unary op operand, memberless, typed =>
      readsAlike_of_typed op.use operand memberless typed
  | _, .binary op left right, memberless, typed => by
      obtain ⟨leftMemberless, rightMemberless⟩ := Bool.or_eq_false_iff.mp memberless
      exact ⟨readsAlike_of_typed op.use left leftMemberless
          fun path member => typed path (List.mem_append_left _ member),
        readsAlike_of_typed op.use right rightMemberless
          fun path member => typed path (List.mem_append_right _ member)⟩
  | _, .call function args, memberless, typed =>
      allReadAlike_of_typed function.use args memberless typed
  | _, .method target name args, memberless, typed => by
      obtain ⟨targetMemberless, argsMemberless⟩ := Bool.or_eq_false_iff.mp memberless
      refine ⟨?_, allReadAlike_of_typed .whole args argsMemberless
        fun path member => typed path (List.mem_append_right _ member)⟩
      by_cases query : isHasProperty target name = true
      · exact .inl query
      · rw [paths, if_neg query] at typed
        exact .inr (readsAlike_of_typed .whole target targetMemberless
          fun path member => typed path (List.mem_append_left _ member))
  | _, .member _ _, memberless, _ => nomatch memberless

theorem allReadAlike_of_typed :
    ∀ (use : OperandUse) (exprs : List Expr), anyReadsMember exprs = false →
      (∀ path ∈ pathsOfAll exprs, ∃ value, resolve record path = some (value, []) ∧
        value.IsTyped) →
        AllReadAlike now record use exprs
  | _, [], _, _ => trivial
  | use, expr :: rest, memberless, typed => by
      obtain ⟨exprMemberless, restMemberless⟩ := Bool.or_eq_false_iff.mp memberless
      exact ⟨readsAlike_of_typed use expr exprMemberless
          fun path member => typed path (List.mem_append_left _ member),
        allReadAlike_of_typed use rest restMemberless
          fun path member => typed path (List.mem_append_right _ member)⟩

end

/-- An expression that reads no member has the same value, or the same error, as a formula and as a
predicate, if every path in it is the name of a property with a value that both read alike: one that
is neither null nor empty, no truth value, and no text that reads as a number. -/
theorem evalFormula_typed {expr : Expr} (memberless : expr.readsMember = false)
    (typed : ∀ path ∈ expr.paths, ∃ value, resolve record path = some (value, []) ∧
      value.IsTyped) :
    evalFormula now record expr = eval now record expr := by
  have inputs : ∀ path ∈ expr.paths, hasInput record path = true := by
    intro path member
    obtain ⟨value, found, valueTyped⟩ := typed path member
    rw [hasInput, found]
    exact congrArg Bool.not (isBlank_of_isTyped valueTyped)
  exact evalFormula_eq_eval inputs (readsAlike_of_typed now .whole expr memberless typed)

end Typed

/-- `rating > 3 && note.artist.startsWith('De')`. -/
def ratedArtist : Expr :=
  .binary .and (.binary .gt (.property ["rating"]) (.literal (.number 3)))
    (.method (.property ["note", "artist"]) "startsWith" [.literal (.text "De")])

def artistNote : Record :=
  OrderedMap.ofList [("artist", .text "Deftones"), ("rating", .number 4)]

theorem evalFormula_typed_ratedArtist :
    ratedArtist.readsMember = false ∧
      (∀ path ∈ ratedArtist.paths, ∃ value, resolve artistNote path = some (value, []) ∧
        value.IsTyped) ∧
      evalFormula Moment.epoch artistNote ratedArtist =
        eval Moment.epoch artistNote ratedArtist := by
  have rating : resolve artistNote ["rating"] = some (.number 4, []) := rfl
  have artist : resolve artistNote ["note", "artist"] = some (.text "Deftones", []) := rfl
  have ratingTyped : (Value.number 4).IsTyped := ⟨nofun, nofun, nofun, nofun⟩
  have artistTyped : (Value.text "Deftones").IsTyped :=
    { notNull := nofun
      notEmpty := fun same => absurd (Value.text.inj same) (by decide)
      noTruth := nofun
      noNumber := by
        rintro text same
        cases same
        decide +kernel }
  have typed : ∀ path ∈ ratedArtist.paths, ∃ value,
      resolve artistNote path = some (value, []) ∧ value.IsTyped := by
    intro path member
    have either : path = ["rating"] ∨ path = ["note", "artist"] := by
      simpa [ratedArtist, paths, pathsOfAll, isHasProperty] using member
    rcases either with rfl | rfl
    · exact ⟨_, rating, ratingTyped⟩
    · exact ⟨_, artist, artistTyped⟩
  exact ⟨rfl, typed, evalFormula_typed Moment.epoch rfl typed⟩

end Expr

/-! ## Numbers of formulas -/

theorem Formula.numberOf?_eq_some {now : Moment} {record : Record} {expr : Expr} {number : Float}
    (inputs : ∀ path ∈ expr.paths, Expr.hasInput record path = true)
    (alike : expr.ReadsAlike now record .whole)
    (value : Expr.eval now record expr = .ok (.number number))
    (finite : Number.isFinite number = true) :
    Formula.numberOf? now record expr = some number := by
  rw [Formula.numberOf?, Expr.evalFormula_eq_eval inputs alike, value]
  exact if_pos finite

end NoteBase
