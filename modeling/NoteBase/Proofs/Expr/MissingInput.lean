import NoteBase.Expr.Eval

/-!
# Missing inputs of formulas

A formula fails for a missing input exactly if one of its properties has no value, whether or not
that property would be evaluated, and then it names the first one from the left. Once every property
has a value no part of the formula misses one, and a predicate never does.
-/

namespace NoteBase.Expr

open Calendar (Moment)

/-! ## Operands -/

/-- The expressions that an expression takes values of, from left to right. A query of the record
takes those of its arguments only. -/
def operands : Expr → List Expr
  | .literal _ => []
  | .property _ => []
  | .unary _ operand => [operand]
  | .binary _ left right => [left, right]
  | .call _ args => args
  | .method target name args => if isHasProperty target name then args else target :: args
  | .member target _ => [target]

theorem height_le_heightOfAll {part : Expr} {exprs : List Expr} (member : part ∈ exprs) :
    part.height ≤ heightOfAll exprs := by
  induction exprs with
  | nil =>
      cases member
  | cons head rest inductionHypothesis =>
      rw [heightOfAll]
      rcases List.mem_cons.mp member with rfl | inRest
      · exact Nat.le_max_left _ _
      · exact Nat.le_trans (inductionHypothesis inRest) (Nat.le_max_right _ _)

theorem height_lt_of_mem_operands {part expr : Expr} (member : part ∈ expr.operands) :
    part.height < expr.height := by
  cases expr with
  | literal _ => cases member
  | property _ => cases member
  | unary _ operand =>
      obtain rfl := List.mem_singleton.mp member
      exact Nat.lt_succ_self _
  | binary _ left right =>
      rw [height]
      simp only [operands, List.mem_cons, List.not_mem_nil, or_false] at member
      rcases member with rfl | rfl <;> omega
  | call _ args =>
      exact Nat.lt_succ_of_le (height_le_heightOfAll member)
  | method target name args =>
      rw [height]
      have inAll : part = target ∨ part ∈ args := by
        rw [operands] at member
        split at member
        · exact .inr member
        · exact List.mem_cons.mp member
      rcases inAll with rfl | inArgs
      · omega
      · have below := height_le_heightOfAll inArgs
        omega
  | member target _ =>
      obtain rfl := List.mem_singleton.mp member
      exact Nat.lt_succ_self _

/-- What holds of an expression whenever it holds of its operands holds of every expression. -/
theorem operandInduction {motive : Expr → Prop}
    (step : ∀ expr : Expr, (∀ part ∈ expr.operands, motive part) → motive expr) (expr : Expr) :
    motive expr :=
  step expr fun part _ => operandInduction step part
termination_by expr.height
decreasing_by exact height_lt_of_mem_operands ‹_›

/-! ## Places of properties -/

/-- The place of a path in an expression: the numbers of the operands that lead to it, from outside
to inside. One path stands to the left of another one if its place is the smaller one in the order
of lists. -/
inductive RefersAt : Expr → List Nat → List String → Prop
  | path (path : List String) : RefersAt (.property path) [] path
  | operand {expr part : Expr} {index : Nat} {place : List Nat} {path : List String}
      (isPart : expr.operands[index]? = some part) (refers : RefersAt part place path) :
      RefersAt expr (index :: place) path

/-- A path is the first one, from left to right, that satisfies a condition. -/
def IsFirstPath (condition : List String → Prop) (expr : Expr) (path : List String) : Prop :=
  ∃ place, expr.RefersAt place path ∧ condition path ∧
    ∀ earlier other, expr.RefersAt earlier other → condition other → ¬ earlier < place

theorem pathsOfAll_eq_flatMap (exprs : List Expr) : pathsOfAll exprs = exprs.flatMap paths := by
  induction exprs with
  | nil =>
      rfl
  | cons expr rest inductionHypothesis =>
      rw [pathsOfAll, inductionHypothesis, List.flatMap_cons]

/-- The paths of an expression that is no path itself are those of its operands. -/
theorem paths_eq_flatMap {expr : Expr} (compound : ∀ path, expr ≠ .property path) :
    expr.paths = expr.operands.flatMap paths := by
  cases expr with
  | literal _ => rfl
  | property path => exact absurd rfl (compound path)
  | unary _ operand => simp [paths, operands]
  | binary _ left right => simp [paths, operands]
  | call _ args => exact pathsOfAll_eq_flatMap args
  | method target name args =>
      rw [paths, operands, pathsOfAll_eq_flatMap]
      split
      · rfl
      · rfl
  | member target _ => simp [paths, operands]

/-- The paths of an operand are paths of the expression. -/
theorem mem_paths_of_mem_operands {part expr : Expr} (isPart : part ∈ expr.operands)
    {path : List String} (inPart : path ∈ part.paths) : path ∈ expr.paths := by
  have compound : ∀ own, expr ≠ .property own := by
    rintro own rfl
    cases isPart
  rw [paths_eq_flatMap compound]
  exact List.mem_flatMap.mpr ⟨part, isPart, inPart⟩

theorem RefersAt.mem_paths {expr : Expr} {place : List Nat} {path : List String}
    (refers : expr.RefersAt place path) : path ∈ expr.paths := by
  induction refers with
  | path path =>
      exact List.mem_singleton.mpr rfl
  | @operand expr part index place path isPart refers inductionHypothesis =>
      exact mem_paths_of_mem_operands (List.mem_of_getElem? isPart) inductionHypothesis

/-- One path stands at one place. -/
theorem RefersAt.unique {expr : Expr} {place : List Nat} {path other : List String}
    (refers : expr.RefersAt place path) (refersOther : expr.RefersAt place other) :
    path = other := by
  induction refers with
  | path path =>
      cases refersOther
      rfl
  | @operand expr part index place path isPart refers inductionHypothesis =>
      cases refersOther with
      | operand isOther refersOther =>
          obtain rfl := Option.some.inj (isPart.symm.trans isOther)
          exact inductionHypothesis refersOther

theorem isFirstPath_of_find? {condition : List String → Bool} {expr : Expr} {path : List String}
    (found : expr.paths.find? condition = some path) :
    expr.IsFirstPath (condition · = true) path := by
  induction expr using operandInduction generalizing path with
  | step expr inductionHypothesis =>
      by_cases isPath : ∃ own, expr = .property own
      · obtain ⟨own, rfl⟩ := isPath
        have holds := List.find?_some found
        obtain rfl := List.mem_singleton.mp (List.mem_of_find?_eq_some found)
        exact ⟨[], .path path, holds, fun earlier _ _ _ => List.not_lt_nil earlier⟩
      · have compound : ∀ own, expr ≠ .property own := fun own same => isPath ⟨own, same⟩
        rw [paths_eq_flatMap compound, List.find?_flatMap, List.findSome?_eq_some_iff] at found
        obtain ⟨before, part, after, split, partFound, noneBefore⟩ := found
        have isPart : expr.operands[before.length]? = some part := by
          simp [split]
        obtain ⟨place, refers, holds, first⟩ := inductionHypothesis part
          (List.mem_of_getElem? isPart) partFound
        refine ⟨before.length :: place, .operand isPart refers, holds, ?_⟩
        intro earlier other refersOther holdsOther smaller
        cases refersOther with
        | path _ => exact compound other rfl
        | @operand _ otherPart index otherPlace _ isOther refersOther =>
            rcases List.cons_lt_cons_iff.mp smaller with inFront | ⟨rfl, inside⟩
            · rw [split, List.getElem?_append_left inFront] at isOther
              have absent := noneBefore otherPart (List.mem_of_getElem? isOther)
              exact List.find?_eq_none.mp absent other refersOther.mem_paths holdsOther
            · obtain rfl := Option.some.inj (isPart.symm.trans isOther)
              exact first otherPlace other refersOther holdsOther inside

/-- The search through all paths finds the first one from the left. -/
theorem find?_paths_eq_some_iff {condition : List String → Bool} {expr : Expr}
    {path : List String} :
    expr.paths.find? condition = some path ↔ expr.IsFirstPath (condition · = true) path := by
  refine ⟨isFirstPath_of_find?, ?_⟩
  rintro ⟨place, refers, holds, first⟩
  cases found : expr.paths.find? condition with
  | none =>
      exact absurd holds (List.find?_eq_none.mp found path refers.mem_paths)
  | some other =>
      obtain ⟨otherPlace, refersOther, holdsOther, otherFirst⟩ := isFirstPath_of_find? found
      have notLeft := otherFirst place path refers holds
      have notRight := first otherPlace other refersOther holdsOther
      obtain rfl : otherPlace = place := List.le_antisymm notLeft notRight
      rw [refersOther.unique refers]

/-! ## Properties without a value -/

/-- A number of names at the front of a path that name a property, of all such numbers the largest
one. -/
structure IsLongestFront (record : Record) (path : List String) (count : Nat) (value : Value) :
    Prop where
  positive : 0 < count
  fits : count ≤ path.length
  found : record.lookup (dotted (path.take count)) = some value
  longest : ∀ longer, count < longer → longer ≤ path.length →
    record.lookup (dotted (path.take longer)) = none

/-- No front of a path names a property. -/
def NamesNothing (record : Record) (path : List String) : Prop :=
  ∀ count, 0 < count → count ≤ path.length → record.lookup (dotted (path.take count)) = none

/-- A path has no input in a record: it names nothing there, or a property that is null or empty. -/
def LacksInput (record : Record) (path : List String) : Prop :=
  NamesNothing record path ∨
    ∃ count value, IsLongestFront record path count value ∧ (value = .null ∨ value = .text "")

variable {record : Record} {path : List String}

theorem IsLongestFront.unique {count other : Nat} {value otherValue : Value}
    (front : IsLongestFront record path count value)
    (otherFront : IsLongestFront record path other otherValue) :
    count = other ∧ value = otherValue := by
  have notShorter : ¬ count < other := by
    intro shorter
    have absent := front.longest other shorter otherFront.fits
    rw [otherFront.found] at absent
    cases absent
  have notLonger : ¬ other < count := by
    intro longer
    have absent := otherFront.longest count longer front.fits
    rw [front.found] at absent
    cases absent
  obtain rfl : count = other := by omega
  exact ⟨rfl, Option.some.inj (front.found.symm.trans otherFront.found)⟩

theorem resolveAt_eq_none {limit : Nat} (absent : resolveAt record path limit = none) (count : Nat)
    (positive : 0 < count) (within : count ≤ limit) :
    record.lookup (dotted (path.take count)) = none := by
  induction limit with
  | zero =>
      omega
  | succ limit inductionHypothesis =>
      rw [resolveAt] at absent
      split at absent
      · cases absent
      · next unnamed =>
        by_cases whole : count = limit + 1
        · rw [whole, unnamed]
        · exact inductionHypothesis absent (by omega)

theorem resolveAt_eq_some {limit : Nat} {value : Value} {members : List String}
    (resolved : resolveAt record path limit = some (value, members)) :
    ∃ count, 0 < count ∧ count ≤ limit ∧ members = path.drop count ∧
      record.lookup (dotted (path.take count)) = some value ∧
      ∀ longer, count < longer → longer ≤ limit →
        record.lookup (dotted (path.take longer)) = none := by
  induction limit with
  | zero =>
      cases resolved
  | succ limit inductionHypothesis =>
      rw [resolveAt] at resolved
      split at resolved
      · next named =>
        cases resolved
        exact ⟨limit + 1, by omega, by omega, rfl, named, fun longer _ _ => by omega⟩
      · next unnamed =>
        obtain ⟨count, positive, within, membersEq, found, longest⟩ := inductionHypothesis resolved
        refine ⟨count, positive, by omega, membersEq, found, fun longer above below => ?_⟩
        by_cases whole : longer = limit + 1
        · rw [whole, unnamed]
        · exact longest longer above (by omega)

theorem namesNothing_of_resolve (absent : resolve record path = none) :
    NamesNothing record path :=
  resolveAt_eq_none absent

theorem isLongestFront_of_resolve {value : Value} {members : List String}
    (resolved : resolve record path = some (value, members)) :
    ∃ count, IsLongestFront record path count value ∧ members = path.drop count := by
  obtain ⟨count, positive, fits, membersEq, found, longest⟩ := resolveAt_eq_some resolved
  exact ⟨count, ⟨positive, fits, found, longest⟩, membersEq⟩

theorem isBlank_iff (value : Value) : value.isBlank = true ↔ value = .null ∨ value = .text "" := by
  cases value <;> simp [Value.isBlank]

theorem hasInput_eq_false_iff : hasInput record path = false ↔ LacksInput record path := by
  rw [hasInput]
  cases resolved : resolve record path with
  | none =>
      exact ⟨fun _ => .inl (namesNothing_of_resolve resolved), fun _ => rfl⟩
  | some found =>
      obtain ⟨value, members⟩ := found
      obtain ⟨count, front, _⟩ := isLongestFront_of_resolve resolved
      simp only [Bool.not_eq_false', isBlank_iff]
      constructor
      · exact fun blank => .inr ⟨count, value, front, blank⟩
      · rintro (nothing | ⟨other, otherValue, otherFront, blank⟩)
        · have absent := nothing count front.positive front.fits
          rw [front.found] at absent
          cases absent
        · rw [(front.unique otherFront).2]
          exact blank

/-! ## Where a missing input comes from -/

theorem bind_eq_error {α β : Type} {result : Except EvalError α} {next : α → Except EvalError β}
    {error : EvalError} (failed : (result >>= next) = .error error) :
    result = .error error ∨ ∃ value, result = .ok value ∧ next value = .error error := by
  cases result with
  | error _ => exact .inl (by cases failed; rfl)
  | ok value => exact .inr ⟨value, rfl, failed⟩

theorem readMember_ne_missingInput (mode : Mode) (value : Value) (member name : String) :
    readMember mode value member ≠ .error (.missingInput name) := by
  intro failed
  cases value with
  | null => cases failed
  | text _ =>
      rw [readMember] at failed
      split at failed <;> cases failed
  | list _ =>
      rw [readMember] at failed
      split at failed <;> cases failed
  | bool _ => cases failed
  | number _ => cases failed
  | date _ => cases failed

theorem readMembers_ne_missingInput (mode : Mode) (value : Value) (members : List String)
    (name : String) : readMembers mode value members ≠ .error (.missingInput name) := by
  intro failed
  induction members generalizing value with
  | nil => cases failed
  | cons member rest inductionHypothesis =>
      rcases bind_eq_error failed with memberFailed | ⟨read, _, restFailed⟩
      · exact readMember_ne_missingInput mode value member name memberFailed
      · exact inductionHypothesis read restFailed

theorem callMethod_ne_missingInput (target : Value) (method : String) (args : List Value)
    (name : String) : callMethod target method args ≠ .error (.missingInput name) := by
  have onText : ∀ text, callOnText method text args ≠ .error (.missingInput name) := by
    intro text failed
    unfold callOnText at failed
    repeat' split at failed
    all_goals cases failed
  have onList : ∀ items, callOnList method items args ≠ .error (.missingInput name) := by
    intro items failed
    unfold callOnList at failed
    repeat' split at failed
    all_goals cases failed
  intro failed
  unfold callMethod at failed
  split at failed
  · cases failed
  · split at failed
    · cases failed
    · exact onText _ failed
    · exact onList _ failed
    · split at failed <;> cases failed

theorem readPath_missingInput {context : Context} {name : String}
    (failed : readPath context path = .error (.missingInput name)) :
    context.mode = .formula ∧ resolve context.record path = none := by
  unfold readPath at failed
  split at failed
  · exact absurd failed (readMembers_ne_missingInput _ _ _ name)
  · exact absurd failed (readMembers_ne_missingInput _ _ _ name)
  · cases failed
  · next unresolved formula => exact ⟨formula, unresolved⟩

theorem evalAllIn_eq_error {context : Context} {exprs : List Expr} {error : EvalError}
    (failed : evalAllIn context exprs = .error error) :
    ∃ part ∈ exprs, evalIn context part = .error error := by
  induction exprs with
  | nil =>
      cases failed
  | cons head rest inductionHypothesis =>
      rw [evalAllIn] at failed
      rcases bind_eq_error failed with headFailed | ⟨value, _, othersFailed⟩
      · exact ⟨head, List.mem_cons_self, headFailed⟩
      · rcases bind_eq_error othersFailed with restFailed | ⟨values, _, failed⟩
        · obtain ⟨part, inRest, partFailed⟩ := inductionHypothesis restFailed
          exact ⟨part, List.mem_cons_of_mem head inRest, partFailed⟩
        · cases failed

/-- An expression that misses an input is a property without one, or an operand of it misses that
input. -/
theorem evalIn_missingInput_step {context : Context} {expr : Expr} {name : String}
    (failed : evalIn context expr = .error (.missingInput name)) :
    (∃ path, expr = .property path ∧ context.mode = .formula ∧
      resolve context.record path = none) ∨
    ∃ part ∈ expr.operands, evalIn context part = .error (.missingInput name) := by
  cases expr with
  | literal _ =>
      cases failed
  | property path =>
      rw [evalIn] at failed
      exact .inl ⟨path, rfl, readPath_missingInput failed⟩
  | unary op operand =>
      rw [evalIn] at failed
      rcases bind_eq_error failed with operandFailed | ⟨value, _, failed⟩
      · exact .inr ⟨operand, List.mem_singleton.mpr rfl, operandFailed⟩
      · cases failed
  | binary op left right =>
      rw [evalIn] at failed
      rcases bind_eq_error failed with leftFailed | ⟨value, _, failed⟩
      · exact .inr ⟨left, List.mem_cons_self, leftFailed⟩
      · split at failed
        · cases failed
        · rcases bind_eq_error failed with rightFailed | ⟨value, _, failed⟩
          · exact .inr ⟨right, List.mem_cons_of_mem left (List.mem_singleton.mpr rfl), rightFailed⟩
          · cases failed
  | call function args =>
      rw [evalIn] at failed
      rcases bind_eq_error failed with argsFailed | ⟨values, _, failed⟩
      · exact .inr (evalAllIn_eq_error argsFailed)
      · cases failed
  | method target method args =>
      rw [evalIn] at failed
      rw [operands]
      rcases bind_eq_error failed with argsFailed | ⟨values, _, failed⟩
      · obtain ⟨part, inArgs, partFailed⟩ := evalAllIn_eq_error argsFailed
        refine .inr ⟨part, ?_, partFailed⟩
        split
        · exact inArgs
        · exact List.mem_cons_of_mem target inArgs
      · split at failed
        · cases failed
        · next noQuery =>
          rw [if_neg noQuery]
          rcases bind_eq_error failed with targetFailed | ⟨value, _, failed⟩
          · exact .inr ⟨target, List.mem_cons_self, targetFailed⟩
          · exact absurd failed (callMethod_ne_missingInput value method values name)
  | member target member =>
      rw [evalIn] at failed
      rcases bind_eq_error failed with targetFailed | ⟨value, _, failed⟩
      · exact .inr ⟨target, List.mem_singleton.mpr rfl, targetFailed⟩
      · exact absurd failed (readMember_ne_missingInput _ value member name)

/-- An input is missed only in a formula, and only if one of its paths names nothing. -/
theorem evalIn_missingInput {context : Context} {expr : Expr} {name : String}
    (failed : evalIn context expr = .error (.missingInput name)) :
    context.mode = .formula ∧ ∃ path ∈ expr.paths, resolve context.record path = none := by
  induction expr using operandInduction with
  | step expr inductionHypothesis =>
      rcases evalIn_missingInput_step failed with
        ⟨path, rfl, formula, unresolved⟩ | ⟨part, isPart, partFailed⟩
      · exact ⟨formula, path, List.mem_singleton.mpr rfl, unresolved⟩
      · obtain ⟨formula, path, inPart, unresolved⟩ := inductionHypothesis part isPart partFailed
        exact ⟨formula, path, mem_paths_of_mem_operands isPart inPart, unresolved⟩

/-! ## Formulas and predicates -/

/-- A formula fails for a missing input if and only if one of its paths names nothing, or a property
that is null or empty, and it reports the first such path from the left. A predicate never fails
so. -/
theorem evalFormula_missingInput (now : Moment) (record : Record) (expr : Expr) :
    (∀ name, evalFormula now record expr = .error (.missingInput name) ↔
      ∃ path, expr.IsFirstPath (LacksInput record) path ∧ dotted path = name) ∧
    ∀ name, eval now record expr ≠ .error (.missingInput name) := by
  have conditions : (fun path => (!hasInput record path) = true) = LacksInput record := by
    funext path
    rw [Bool.not_eq_true', hasInput_eq_false_iff]
  have search := fun path => @find?_paths_eq_some_iff (fun path => !hasInput record path) expr path
  rw [conditions] at search
  refine ⟨fun name => ?_, fun name failed => ?_⟩
  · rw [evalFormula]
    simp only [← search]
    cases found : expr.paths.find? fun path => !hasInput record path with
    | some path =>
        simp
    | none =>
        have complete : evalIn ⟨record, .formula, now⟩ expr ≠ .error (.missingInput name) := by
          intro failed
          obtain ⟨_, path, isPath, unresolved⟩ := evalIn_missingInput failed
          have absent := List.find?_eq_none.mp found path isPath
          rw [hasInput, unresolved] at absent
          exact absent rfl
        simp [complete]
  · cases (evalIn_missingInput failed).1

/-- An operand that is not evaluated has to have its input nevertheless. -/
example : evalFormula Moment.epoch OrderedMap.empty
    (.binary .and (.literal (.bool false)) (.property ["note", "rating"])) =
      .error (.missingInput "note.rating") :=
  rfl

end NoteBase.Expr
