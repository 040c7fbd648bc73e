import NoteBase.Expr.Eval

/-!
# What an expression reads of a record

The names that an expression refers to are all that it reads: two records that give the same results
for these names, and for what is left of them in front of a point, give the same value or the same
error. Only `file.hasProperty(...)` reads more, because it looks up a name that is computed.
-/

namespace NoteBase.Expr

open Calendar (Moment)

/-! ## Queries of the record -/

mutual

/-- Whether the record is asked for a property by a computed name anywhere in an expression. -/
def asksRecord : Expr → Bool
  | .literal _ => false
  | .property _ => false
  | .unary _ operand => operand.asksRecord
  | .binary _ left right => left.asksRecord || right.asksRecord
  | .call _ args => anyAsksRecord args
  | .method target name args =>
    isHasProperty target name || target.asksRecord || anyAsksRecord args
  | .member target _ => target.asksRecord

def anyAsksRecord : List Expr → Bool
  | [] => false
  | expr :: rest => expr.asksRecord || anyAsksRecord rest

end

/-! ## Names and their dotted prefixes -/

theorem mem_insertSorted {name other : String} {names : List String} :
    other ∈ insertSorted name names ↔ other = name ∨ other ∈ names := by
  induction names with
  | nil =>
      simp [insertSorted]
  | cons head rest inductionHypothesis =>
      rw [insertSorted]
      split
      · next same =>
        subst same
        simp
      · split
        · simp
        · simp only [List.mem_cons, inductionHypothesis]
          exact or_left_comm

/-- The names of an expression are those of its paths, with points between. -/
theorem mem_properties_iff {name : String} {expr : Expr} :
    name ∈ expr.properties ↔ ∃ path ∈ expr.paths, dotted path = name := by
  rw [properties]
  induction expr.paths with
  | nil =>
      simp
  | cons path rest inductionHypothesis =>
      simp [mem_insertSorted, inductionHypothesis, eq_comm]

/-- A name itself, or what stands in front of one of its points. -/
def IsDottedPrefix (start name : String) : Prop :=
  start = name ∨ ∃ rest, start ++ "." ++ rest = name

theorem IsDottedPrefix.isPrefix {start name : String} (front : IsDottedPrefix start name) :
    start.toList <+: name.toList := by
  rcases front with rfl | ⟨rest, rfl⟩
  · exact List.prefix_rfl
  · simp

theorem isDottedPrefix_take (path : List String) (count : Nat) (positive : 0 < count) :
    IsDottedPrefix (dotted (path.take count)) (dotted path) := by
  by_cases whole : path.length ≤ count
  · rw [List.take_of_length_le whole]
    exact .inl rfl
  · have shorter : count < path.length := Nat.lt_of_not_le whole
    have front : path.take count ≠ [] := by
      rw [← List.length_pos_iff, List.length_take]
      omega
    have back : path.drop count ≠ [] := by
      rw [← List.length_pos_iff, List.length_drop]
      omega
    have joined := String.intercalate_append_of_ne_nil (s := ".") front back
    rw [List.take_append_drop] at joined
    exact .inr ⟨dotted (path.drop count), joined.symm⟩

/-! ## Records that agree -/

/-- Two records give the same result for every dotted prefix of some names. -/
def AgreeOn (names : List String) (left right : Record) : Prop :=
  ∀ name ∈ names, ∀ start, IsDottedPrefix start name → left.lookup start = right.lookup start

section Agreement

variable {left right : Record}

theorem resolveAt_congr {path : List String}
    (agree : ∀ start, IsDottedPrefix start (dotted path) → left.lookup start = right.lookup start)
    (count : Nat) : resolveAt left path count = resolveAt right path count := by
  induction count with
  | zero =>
      rfl
  | succ count inductionHypothesis =>
      rw [resolveAt, resolveAt, agree _ (isDottedPrefix_take path _ count.succ_pos),
        inductionHypothesis]

theorem resolve_congr {expr : Expr} (agree : AgreeOn expr.properties left right) :
    ∀ path ∈ expr.paths, resolve left path = resolve right path :=
  fun path member =>
    resolveAt_congr (agree _ (mem_properties_iff.mpr ⟨path, member, rfl⟩)) path.length

/-- Two records have the same value under every key that is none of some. -/
def SameOutside (keys : List String) (left right : Record) : Prop :=
  ∀ key, key ∉ keys → left.get? key = right.get? key

/-- A name that is none of some keys, with or without `note.` in front, gives the same result in
records that differ under these keys only, if the path of the file is not among them. -/
theorem lookup_of_sameOutside {keys : List String} {name : String}
    (same : SameOutside keys left right) (notKey : name ∉ keys)
    (notNote : ∀ key ∈ keys, name ≠ "note." ++ key) (notPath : Record.filePath ∉ keys) :
    left.lookup name = right.lookup name := by
  have behindNote : (Record.dropPrefix? Record.notePrefix name.toList).bind
        (fun rest => left.get? (String.ofList rest)) =
      (Record.dropPrefix? Record.notePrefix name.toList).bind
        fun rest => right.get? (String.ofList rest) := by
    refine Option.bind_congr fun rest dropped => same _ fun isKey => ?_
    unfold Record.dropPrefix? at dropped
    split at dropped
    · next starts =>
      obtain ⟨tail, split⟩ := List.isPrefixOf_iff_prefix.mp starts
      rw [← split, List.drop_left, Option.some.injEq] at dropped
      subst dropped
      refine notNote _ isKey (String.toList_injective ?_)
      rw [← split, String.toList_append]
      exact congrArg (Record.notePrefix ++ ·) String.toList_ofList.symm
    · cases dropped
  simp only [Record.lookup, same name notKey, same Record.filePath notPath, behindNote]

theorem sameOutside_insert (record : Record) (key : String) (value : Value) :
    SameOutside [key] (record.insert key value) record := by
  intro other outside
  rw [OrderedMap.get?_insert, if_neg (List.ne_of_not_mem_cons outside)]

/-- A property that is neither looked up by its key nor behind `note.`, and that is not the path of
the file, may have any value. -/
theorem lookup_insert_of_ne {record : Record} {key name : String} (value : Value)
    (notKey : name ≠ key) (notNote : name ≠ "note." ++ key) (notPath : key ≠ Record.filePath) :
    Record.lookup (record.insert key value) name = record.lookup name :=
  lookup_of_sameOutside (sameOutside_insert record key value) (by simpa using notKey)
    (by simpa using notNote) (by simpa using notPath.symm)

theorem agreeOn_of_takes {names : List String}
    (same : ∀ name ∈ names, ∀ count ≤ name.toList.length,
      left.lookup (String.ofList (name.toList.take count)) =
        right.lookup (String.ofList (name.toList.take count))) :
    AgreeOn names left right := by
  intro name member start front
  obtain ⟨rest, split⟩ := front.isPrefix
  have found := same name member start.toList.length (by simp [← split])
  rwa [← split, List.take_left, String.ofList_toList] at found

/-- A path that names a property as a whole stands for its value. -/
theorem resolve_of_lookup {record : Record} {path : List String} {value : Value}
    (nonempty : path ≠ []) (found : record.lookup (dotted path) = some value) :
    resolve record path = some (value, []) := by
  obtain ⟨name, rest, rfl⟩ := List.exists_cons_of_ne_nil nonempty
  rw [resolve, List.length_cons, resolveAt, ← List.length_cons, List.take_length, found,
    List.drop_length]

/-! ## Evaluation -/

theorem readPath_congr {path : List String} (same : resolve left path = resolve right path)
    (mode : Mode) (now : Moment) :
    readPath ⟨left, mode, now⟩ path = readPath ⟨right, mode, now⟩ path := by
  simp only [readPath, same]

mutual

/-- An expression reads the record through the resolutions of its paths and, if it asks the record,
through the properties that this one has. The induction is on the expression: a part that is not
evaluated does no harm, since its paths are among those of the whole. -/
theorem evalIn_congr_of_queries (mode : Mode) (now : Moment) :
    ∀ expr : Expr, (expr.asksRecord = true → left.hasProperty = right.hasProperty) →
      (∀ path ∈ expr.paths, resolve left path = resolve right path) →
        evalIn ⟨left, mode, now⟩ expr = evalIn ⟨right, mode, now⟩ expr
  | .literal _, _, _ => rfl
  | .property path, _, same => by
      rw [evalIn, evalIn]
      exact readPath_congr (same path (List.mem_singleton.mpr rfl)) mode now
  | .unary op operand, queries, same => by
      have operandSame := evalIn_congr_of_queries mode now operand queries same
      rw [evalIn, evalIn, operandSame]
  | .binary op first second, queries, same => by
      have firstSame := evalIn_congr_of_queries mode now first
        (fun asks => queries (Bool.or_eq_true_iff.mpr (.inl asks)))
        fun path member => same path (List.mem_append_left _ member)
      have secondSame := evalIn_congr_of_queries mode now second
        (fun asks => queries (Bool.or_eq_true_iff.mpr (.inr asks)))
        fun path member => same path (List.mem_append_right _ member)
      rw [evalIn, evalIn, firstSame, secondSame]
  | .call function args, queries, same => by
      have argsSame := evalAllIn_congr_of_queries mode now args queries same
      rw [evalIn, evalIn, argsSame]
  | .method target name args, queries, same => by
      have argsSame := evalAllIn_congr_of_queries mode now args
        (fun asks => queries (Bool.or_eq_true_iff.mpr (.inr asks)))
        fun path member => same path (List.mem_append_right _ member)
      by_cases query : isHasProperty target name = true
      · have asks : (Expr.method target name args).asksRecord = true := by
          rw [asksRecord, query, Bool.true_or, Bool.true_or]
        rw [evalIn, evalIn, argsSame]
        simp only [query, if_true, queries asks]
      · simp only [paths, query, Bool.false_eq_true, if_false] at same
        have targetSame := evalIn_congr_of_queries mode now target
          (fun asks => queries
            (Bool.or_eq_true_iff.mpr (.inl (Bool.or_eq_true_iff.mpr (.inr asks)))))
          fun path member => same path (List.mem_append_left _ member)
        rw [evalIn, evalIn, argsSame, targetSame]
        simp only [query, Bool.false_eq_true, if_false]
  | .member target name, queries, same => by
      have targetSame := evalIn_congr_of_queries mode now target queries same
      rw [evalIn, evalIn, targetSame]

theorem evalAllIn_congr_of_queries (mode : Mode) (now : Moment) :
    ∀ exprs : List Expr, (anyAsksRecord exprs = true → left.hasProperty = right.hasProperty) →
      (∀ path ∈ pathsOfAll exprs, resolve left path = resolve right path) →
        evalAllIn ⟨left, mode, now⟩ exprs = evalAllIn ⟨right, mode, now⟩ exprs
  | [], _, _ => rfl
  | expr :: rest, queries, same => by
      have exprSame := evalIn_congr_of_queries mode now expr
        (fun asks => queries (Bool.or_eq_true_iff.mpr (.inl asks)))
        fun path member => same path (List.mem_append_left _ member)
      have restSame := evalAllIn_congr_of_queries mode now rest
        (fun asks => queries (Bool.or_eq_true_iff.mpr (.inr asks)))
        fun path member => same path (List.mem_append_right _ member)
      rw [evalAllIn, evalAllIn, exprSame, restSame]

end

/-- An expression that does not ask the record reads it through the resolutions of its paths
only. -/
theorem evalIn_congr (mode : Mode) (now : Moment) (expr : Expr) (quiet : expr.asksRecord = false)
    (same : ∀ path ∈ expr.paths, resolve left path = resolve right path) :
    evalIn ⟨left, mode, now⟩ expr = evalIn ⟨right, mode, now⟩ expr :=
  evalIn_congr_of_queries mode now expr
    (fun asks => absurd asks (Bool.eq_false_iff.mp quiet)) same

/-- A formula whose paths resolve alike misses the same input, if any. -/
theorem evalFormula_congr_of_queries {expr : Expr} (now : Moment)
    (queries : expr.asksRecord = true → left.hasProperty = right.hasProperty)
    (same : ∀ path ∈ expr.paths, resolve left path = resolve right path) :
    evalFormula now left expr = evalFormula now right expr := by
  have missing : expr.paths.find? (fun path => !hasInput left path) =
      expr.paths.find? fun path => !hasInput right path := by
    rw [← List.head?_filter, ← List.head?_filter]
    refine congrArg List.head? (List.filter_congr fun path member => ?_)
    rw [hasInput, hasInput, same path member]
  rw [evalFormula, evalFormula, missing, evalIn_congr_of_queries .formula now expr queries same]

theorem evalFormula_congr {expr : Expr} (now : Moment) (quiet : expr.asksRecord = false)
    (same : ∀ path ∈ expr.paths, resolve left path = resolve right path) :
    evalFormula now left expr = evalFormula now right expr :=
  evalFormula_congr_of_queries now (fun asks => absurd asks (Bool.eq_false_iff.mp quiet)) same

end Agreement

/-- Without a query of the record, the names that an expression refers to are all that it reads, as
a predicate and as a formula. -/
theorem eval_footprint (now : Moment) {expr : Expr} {left right : Record}
    (quiet : expr.asksRecord = false) (agree : AgreeOn expr.properties left right) :
    eval now left expr = eval now right expr ∧
      evalFormula now left expr = evalFormula now right expr :=
  ⟨evalIn_congr .predicate now expr quiet (resolve_congr agree),
    evalFormula_congr now quiet (resolve_congr agree)⟩

/-- `note.rating > 3 && file.ext == 'md'`, whose two names are keys of no record. -/
def ratedText : Expr :=
  .binary .and (.binary .gt (.property ["note", "rating"]) (.literal (.number 3)))
    (.binary .eq (.property ["file", "ext"]) (.literal (.text "md")))

def ratedNote : Record :=
  OrderedMap.ofList [(Record.filePath, .text "a.md"), ("rating", .number 4)]

theorem eval_footprint_draft :
    ratedText.asksRecord = false ∧
      AgreeOn ratedText.properties ratedNote (ratedNote.insert "draft" (.bool true)) ∧
      eval Moment.epoch ratedNote ratedText =
        eval Moment.epoch (ratedNote.insert "draft" (.bool true)) ratedText := by
  have names : ratedText.properties = ["file.ext", "note.rating"] := by decide
  have agree : AgreeOn ratedText.properties ratedNote
      (ratedNote.insert "draft" (.bool true)) := by
    rw [names]
    refine agreeOn_of_takes fun name member count within => (lookup_insert_of_ne _ ?_ ?_ ?_).symm
    · revert name count
      decide
    · revert name count
      decide
    · decide
  have quiet : ratedText.asksRecord = false := rfl
  exact ⟨quiet, agree, (eval_footprint Moment.epoch quiet agree).1⟩

end NoteBase.Expr
