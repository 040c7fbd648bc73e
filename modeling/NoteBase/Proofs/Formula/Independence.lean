import NoteBase.Formula
import NoteBase.Proofs.Expr.Footprint
import NoteBase.Proofs.OrderedMap

/-!
# Formulas that do not see each other

Formulas are attached one after another, and each one sees those before it. Two neighbours that do
not read each other's numbers may change places, whatever formulas stand around them: every key has
the same value afterwards, although the keys may stand in another order.
-/

namespace NoteBase

open Calendar (Moment)

universe u

/-! ## Maps with the same items -/

namespace OrderedMap

variable {Item : Type u} {left right : OrderedMap Item}

/-- Two maps have the same item under every key, in whatever order their keys stand. -/
def SameItems (left right : OrderedMap Item) : Prop :=
  ∀ key, left.get? key = right.get? key

theorem SameItems.insert (same : left.SameItems right) (key : String) (item : Item) :
    (left.insert key item).SameItems (right.insert key item) := by
  intro name
  rw [get?_insert, get?_insert, same name]

theorem SameItems.keys_perm (same : left.SameItems right) : left.keys.Perm right.keys := by
  apply (List.perm_ext_iff_of_nodup left.nodup right.nodup).mpr
  intro key
  have sameContains : left.contains key = right.contains key := by
    rw [contains, contains, same key]
  exact (contains_iff left key).symm.trans
    ((Bool.eq_iff_iff.mp sameContains).trans (contains_iff right key))

/-- With the same keys in the same order, they are the same map. -/
theorem SameItems.eq_of_keys (same : left.SameItems right) (sameKeys : left.keys = right.keys) :
    left = right :=
  ext (Entries.eq_of_keys left.nodup sameKeys same)

/-- Insertions under different keys may change places. -/
theorem sameItems_insert_insert (map : OrderedMap Item) {key other : String}
    (different : key ≠ other) (item otherItem : Item) :
    ((map.insert key item).insert other otherItem).SameItems
      ((map.insert other otherItem).insert key item) := by
  intro name
  simp only [get?_insert]
  by_cases isKey : name = key
  · have notOther : name ≠ other := isKey ▸ different
    rw [if_neg notOther, if_pos isKey, if_pos isKey]
  · rw [if_neg isKey, if_neg isKey]

end OrderedMap

/-! ## Records with the same items -/

theorem Record.lookup_congr {left right : Record} (same : left.SameItems right) :
    left.lookup = right.lookup := by
  funext name
  have behindNote :
      (Record.dropPrefix? Record.notePrefix name.toList).bind
          (fun rest => left.get? (String.ofList rest)) =
        (Record.dropPrefix? Record.notePrefix name.toList).bind
          fun rest => right.get? (String.ofList rest) :=
    Option.bind_congr fun rest _ => same (String.ofList rest)
  simp only [Record.lookup, same name, same Record.filePath, behindNote]

theorem Record.hasProperty_congr {left right : Record} (same : left.SameItems right) :
    left.hasProperty = right.hasProperty := by
  funext name
  rw [Record.hasProperty, Record.hasProperty, Record.lookup_congr same]

theorem FormulaDef.key_ne_filePath (definition : FormulaDef) :
    definition.key ≠ Record.filePath := by
  intro same
  have starts := congrArg (fun key : String => key.toList[1]?) same
  simp [FormulaDef.key, formulaPrefix, Record.filePath] at starts

/-! ## One formula -/

namespace CompiledFormula

/-- A formula does not see the property with some key: it asks the record for no computed name, and
none of its names begins with the key, with or without `note.` in front. A formula without an
expression sees nothing. -/
def Ignores (formula : CompiledFormula) (key : String) : Prop :=
  ∀ expr, formula.expr = some expr →
    expr.asksRecord = false ∧
      ∀ name ∈ expr.properties, ∀ start, Expr.IsDottedPrefix start name →
        start ≠ key ∧ start ≠ "note." ++ key

variable {left right : Record} {formula : CompiledFormula}

theorem value_congr (now : Moment) (same : left.SameItems right) :
    formula.value now left = formula.value now right := by
  have sameLookups : ∀ names, Expr.AgreeOn names left right :=
    fun _ _ _ start _ => congrFun (Record.lookup_congr same) start
  have sameNumber : formula.expr.bind (Formula.numberOf? now left) =
      formula.expr.bind (Formula.numberOf? now right) := by
    apply Option.bind_congr
    intro expr _
    rw [Formula.numberOf?, Formula.numberOf?,
      Expr.evalFormula_congr_of_queries now (fun _ => Record.hasProperty_congr same)
        (Expr.resolve_congr (sameLookups _))]
  rw [value, value, sameNumber]

/-- A formula has the same value in records that differ only in properties that it does not see. -/
theorem value_of_sameOutside (now : Moment) {keys : List String}
    (same : Expr.SameOutside keys left right) (ignores : ∀ key ∈ keys, formula.Ignores key)
    (notPath : Record.filePath ∉ keys) : formula.value now left = formula.value now right := by
  cases keys with
  | nil =>
      exact value_congr now fun key => same key List.not_mem_nil
  | cons first others =>
      have sameNumber : formula.expr.bind (Formula.numberOf? now left) =
          formula.expr.bind (Formula.numberOf? now right) := by
        apply Option.bind_congr
        intro expr isExpr
        have quiet := (ignores first List.mem_cons_self expr isExpr).1
        have agree : Expr.AgreeOn expr.properties left right := by
          intro name member start isPrefix
          have unseen := fun key isKey =>
            (ignores key isKey expr isExpr).2 name member start isPrefix
          exact Expr.lookup_of_sameOutside same (fun isKey => (unseen start isKey).1 rfl)
            (fun key isKey => (unseen key isKey).2) notPath
        rw [Formula.numberOf?, Formula.numberOf?,
          Expr.evalFormula_congr now quiet (Expr.resolve_congr agree)]
      rw [value, value, sameNumber]

/-- A formula has the same value after a property that it does not see is set. -/
theorem value_insert_of_ignores (now : Moment) {record : Record} {key : String}
    (ignores : formula.Ignores key) (notPath : key ≠ Record.filePath) (item : Value) :
    formula.value now (record.insert key item) = formula.value now record :=
  value_of_sameOutside now (Expr.sameOutside_insert record key item) (by simpa using ignores)
    (by simpa using notPath.symm)

/-- Attaching a formula keeps records the same up to the order of their keys. -/
theorem attach_congr (now : Moment) (same : left.SameItems right) (formula : CompiledFormula) :
    (attach now left formula).SameItems (attach now right formula) := by
  rw [attach, attach, value_congr now same]
  exact same.insert formula.key _

theorem attachAll_congr (now : Moment) (formulas : List CompiledFormula)
    (same : left.SameItems right) :
    (formulas.foldl (attach now) left).SameItems (formulas.foldl (attach now) right) := by
  induction formulas generalizing left right with
  | nil =>
      exact same
  | cons formula rest inductionHypothesis =>
      exact inductionHypothesis (attach_congr now same formula)

/-- Two formulas that do not see each other may be attached in either order. -/
theorem attach_attach (now : Moment) (record : Record) {first second : CompiledFormula}
    (different : first.key ≠ second.key)
    (firstIgnores : first.Ignores second.key) (secondIgnores : second.Ignores first.key)
    (firstNotPath : first.key ≠ Record.filePath) (secondNotPath : second.key ≠ Record.filePath) :
    (attach now (attach now record first) second).SameItems
      (attach now (attach now record second) first) := by
  have secondValue : second.value now (record.insert first.key (first.value now record)) =
      second.value now record := value_insert_of_ignores now secondIgnores firstNotPath _
  have firstValue : first.value now (record.insert second.key (second.value now record)) =
      first.value now record := value_insert_of_ignores now firstIgnores secondNotPath _
  simp only [attach, secondValue, firstValue]
  exact record.sameItems_insert_insert different _ _

/-- A formula does not see a key that is at the front of none of its paths. -/
theorem ignores_of_compile? {definition : FormulaDef} {expr : Expr} {key : String}
    (compiled : Formula.compile? definition.formula = some expr) (quiet : expr.asksRecord = false)
    (unseen : ∀ path ∈ expr.paths, ¬ key.toList <+: (Expr.dotted path).toList ∧
      ¬ ("note." ++ key).toList <+: (Expr.dotted path).toList) :
    (ofDef definition).Ignores key := by
  intro other isOther
  simp only [ofDef, compiled, Option.some.injEq] at isOther
  subst isOther
  refine ⟨quiet, fun name member start front => ?_⟩
  obtain ⟨path, isPath, rfl⟩ := Expr.mem_properties_iff.mp member
  obtain ⟨notKey, notNote⟩ := unseen path isPath
  exact ⟨fun same => notKey (same ▸ front.isPrefix), fun same => notNote (same ▸ front.isPrefix)⟩

end CompiledFormula

/-! ## All formulas -/

namespace FormulaSet

/-- Neighbours that do not see each other may change places in a list of formulas: the record has
the same keys afterwards, and the same value under each one. -/
theorem apply_swap (now : Moment) (record : Record) (before after : List FormulaDef)
    {first second : FormulaDef} (different : first.key ≠ second.key)
    (firstIgnores : (CompiledFormula.ofDef first).Ignores second.key)
    (secondIgnores : (CompiledFormula.ofDef second).Ignores first.key) :
    ((compile (before ++ [first, second] ++ after)).apply now record).keys.Perm
        ((compile (before ++ [second, first] ++ after)).apply now record).keys ∧
      ∀ key,
        ((compile (before ++ [first, second] ++ after)).apply now record).get? key =
          ((compile (before ++ [second, first] ++ after)).apply now record).get? key := by
  have same : ((compile (before ++ [first, second] ++ after)).apply now record).SameItems
      ((compile (before ++ [second, first] ++ after)).apply now record) := by
    simp only [compile, apply, List.map_append, List.foldl_append]
    apply CompiledFormula.attachAll_congr
    exact CompiledFormula.attach_attach now _ different firstIgnores secondIgnores
      first.key_ne_filePath second.key_ne_filePath
  exact ⟨same.keys_perm, same⟩

def ratingSquare : FormulaDef :=
  ⟨"base", "rating * rating"⟩

def upperBound : FormulaDef :=
  ⟨"upper", "formula.base + rating"⟩

def lowerBound : FormulaDef :=
  ⟨"lower", "formula.base - rating"⟩

def boundsSpan : FormulaDef :=
  ⟨"span", "formula.upper - formula.lower"⟩

/-- The two bounds stand between a formula that both of them see and one that sees both. -/
theorem apply_swap_bounds :
    ((CompiledFormula.ofDef upperBound).Ignores lowerBound.key ∧
      (CompiledFormula.ofDef lowerBound).Ignores upperBound.key) ∧
    ∀ key,
      ((compile [ratingSquare, upperBound, lowerBound, boundsSpan]).apply Moment.epoch
          (OrderedMap.ofList [("rating", .number 4)])).get? key =
        ((compile [ratingSquare, lowerBound, upperBound, boundsSpan]).apply Moment.epoch
          (OrderedMap.ofList [("rating", .number 4)])).get? key := by
  have upperRead : Formula.compile? upperBound.formula =
      some (.binary .add (.property ["formula", "base"]) (.property ["rating"])) := rfl
  have lowerRead : Formula.compile? lowerBound.formula =
      some (.binary .sub (.property ["formula", "base"]) (.property ["rating"])) := rfl
  have upperIgnores : (CompiledFormula.ofDef upperBound).Ignores lowerBound.key :=
    CompiledFormula.ignores_of_compile? upperRead rfl (by decide)
  have lowerIgnores : (CompiledFormula.ofDef lowerBound).Ignores upperBound.key :=
    CompiledFormula.ignores_of_compile? lowerRead rfl (by decide)
  have different : upperBound.key ≠ lowerBound.key := by
    decide
  have swapped := apply_swap Moment.epoch (OrderedMap.ofList [("rating", .number 4)])
    [ratingSquare] [boundsSpan] different upperIgnores lowerIgnores
  exact ⟨⟨upperIgnores, lowerIgnores⟩, swapped.2⟩

end FormulaSet

end NoteBase
