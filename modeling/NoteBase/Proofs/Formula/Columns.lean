import NoteBase.Formula

/-!
# Columns of formulas

Attaching formulas adds their columns to a record and does nothing else: the keys that were there
keep their places, the new ones stand behind them in the order in which they were first declared,
and every other property is what it was. If several formulas have one name, the last one counts, and
its column is its number in the record that all formulas before it have left.
-/

namespace NoteBase

open Calendar (Moment)

/-! ## Keys and numbers -/

namespace FormulaDef

/-- Two formulas are attached as the same property only if they have the same name. -/
theorem key_inj {first second : FormulaDef} : first.key = second.key ↔ first.name = second.name :=
  String.append_right_inj formulaPrefix

end FormulaDef

namespace Formula

/-- What is attached for a formula: its number, or null if it has none. -/
def column : Option Float → Value
  | some number => .number number
  | none => .null

theorem isFinite_of_finiteNumber? {value : Value} {number : Float}
    (found : finiteNumber? value = some number) : Number.isFinite number = true := by
  cases value with
  | number own =>
      obtain ⟨finite, same⟩ := Option.ite_none_right_eq_some.mp found
      exact Option.some.inj same ▸ finite
  | date moment =>
      obtain ⟨finite, same⟩ := Option.ite_none_right_eq_some.mp found
      exact Option.some.inj same ▸ finite
  | null => cases found
  | bool _ => cases found
  | text _ => cases found
  | list _ => cases found

/-- The number of a formula is finite. -/
theorem isFinite_of_evaluate? {now : Moment} {record : Record} {formula : String} {number : Float}
    (found : evaluate? now record formula = some number) : Number.isFinite number = true := by
  obtain ⟨expr, _, evaluated⟩ := Option.bind_eq_some_iff.mp found
  obtain ⟨value, _, finite⟩ := Option.bind_eq_some_iff.mp evaluated
  exact isFinite_of_finiteNumber? finite

end Formula

/-! ## Attaching one formula after another -/

namespace CompiledFormula

variable (now : Moment)

theorem value_ofDef (record : Record) (definition : FormulaDef) :
    (ofDef definition).value now record =
      Formula.column (Formula.evaluate? now record definition.formula) := by
  rw [value, ofDef, Formula.evaluate?]
  cases (Formula.compile? definition.formula).bind (Formula.numberOf? now record) <;> rfl

theorem get?_attach (record : Record) (formula : CompiledFormula) (name : String) :
    (attach now record formula).get? name =
      if name = formula.key then some (formula.value now record) else record.get? name :=
  OrderedMap.get?_insert record formula.key name _

theorem keys_attach (record : Record) (formula : CompiledFormula) :
    (attach now record formula).keys =
      if formula.key ∈ record.keys then record.keys else record.keys ++ [formula.key] :=
  OrderedMap.keys_insert record formula.key _

/-- The keys of a record come first, and then the new ones, each where it is declared first. -/
theorem keys_attachAll (formulas : List CompiledFormula) (record : Record) :
    (formulas.foldl (attach now) record).keys =
      record.keys ++ ((formulas.map key).filter (· ∉ record.keys)).eraseDups := by
  induction formulas generalizing record with
  | nil =>
      simp
  | cons formula rest inductionHypothesis =>
      rw [List.foldl_cons, inductionHypothesis, keys_attach, List.map_cons]
      by_cases old : formula.key ∈ record.keys
      · rw [if_pos old, List.filter_cons_of_neg (by simpa using old)]
      · have others : (rest.map key).filter (· ∉ record.keys ++ [formula.key]) =
            ((rest.map key).filter (· ∉ record.keys)).filter fun other =>
              !other == formula.key := by
          rw [List.filter_filter]
          refine List.filter_congr fun other _ => ?_
          by_cases same : other = formula.key <;> simp [same]
        rw [if_neg old, List.filter_cons_of_pos (by simpa using old), List.eraseDups_cons, others,
          List.append_assoc, List.singleton_append]

theorem mem_keys_attachAll {formulas : List CompiledFormula} {name : String}
    (isColumn : name ∈ formulas.map key) (record : Record) :
    name ∈ (formulas.foldl (attach now) record).keys := by
  rw [keys_attachAll, List.mem_append]
  by_cases old : name ∈ record.keys
  · exact .inl old
  · exact .inr (List.mem_eraseDups.mpr (List.mem_filter.mpr ⟨isColumn, by simpa using old⟩))

/-- A property that is no column of the formulas keeps its value. -/
theorem get?_attachAll_of_not_mem {formulas : List CompiledFormula} {name : String}
    (other : name ∉ formulas.map key) (record : Record) :
    (formulas.foldl (attach now) record).get? name = record.get? name := by
  induction formulas generalizing record with
  | nil =>
      rfl
  | cons formula rest inductionHypothesis =>
      obtain ⟨notFirst, notRest⟩ := not_or.mp (mt List.mem_cons.mpr other)
      rw [List.foldl_cons, inductionHypothesis notRest, get?_attach, if_neg notFirst]

/-- The last formula with a key gives its column, in the record that those before it have left. -/
theorem get?_attachAll_last {after : List CompiledFormula} {formula : CompiledFormula}
    (last : formula.key ∉ after.map key) (before : List CompiledFormula) (record : Record) :
    ((before ++ formula :: after).foldl (attach now) record).get? formula.key =
      some (formula.value now (before.foldl (attach now) record)) := by
  rw [List.foldl_append, List.foldl_cons, get?_attachAll_of_not_mem now last, get?_attach,
    if_pos rfl]

end CompiledFormula

/-! ## All formulas of a base -/

/-- Among the formulas of one name there is a last one. -/
theorem FormulaDef.exists_last {definitions : List FormulaDef} {definition : FormulaDef}
    (member : definition ∈ definitions) :
    ∃ before last after, definitions = before ++ last :: after ∧ last.name = definition.name ∧
      ∀ later ∈ after, later.name ≠ last.name := by
  induction definitions generalizing definition with
  | nil =>
      cases member
  | cons head rest inductionHypothesis =>
      by_cases repeated : ∃ later ∈ rest, later.name = definition.name
      · obtain ⟨later, inRest, sameName⟩ := repeated
        obtain ⟨before, last, after, restEq, lastName, isLast⟩ := inductionHypothesis inRest
        exact ⟨head :: before, last, after, congrArg (head :: ·) restEq, lastName.trans sameName,
          isLast⟩
      · have different : ∀ later ∈ rest, later.name ≠ definition.name :=
          fun later inRest same => repeated ⟨later, inRest, same⟩
        obtain rfl : definition = head :=
          (List.mem_cons.mp member).resolve_right fun inRest => different definition inRest rfl
        exact ⟨[], definition, rest, rfl, rfl, different⟩

namespace FormulaSet

theorem keys_compile (definitions : List FormulaDef) :
    (compile definitions).formulas.map CompiledFormula.key = definitions.map FormulaDef.key := by
  rw [compile, List.map_map]
  rfl

/-- The last formula of a name gives its column, in the record that those before it have left. -/
theorem get?_apply_last (now : Moment) (record : Record) (before : List FormulaDef)
    {last : FormulaDef} {after : List FormulaDef}
    (isLast : ∀ later ∈ after, later.name ≠ last.name) :
    ((compile (before ++ last :: after)).apply now record).get? last.key =
      some (Formula.column
        (Formula.evaluate? now ((compile before).apply now record) last.formula)) := by
  have unrepeated : (CompiledFormula.ofDef last).key ∉
      (compile after).formulas.map CompiledFormula.key := by
    rw [keys_compile]
    intro member
    obtain ⟨later, inAfter, sameKey⟩ := List.mem_map.mp member
    exact isLast later inAfter (FormulaDef.key_inj.mp sameKey)
  have column := CompiledFormula.get?_attachAll_last now unrepeated
    (before.map CompiledFormula.ofDef) record
  rw [CompiledFormula.value_ofDef] at column
  rw [apply, compile, List.map_append, List.map_cons]
  exact column

/-- Attaching formulas keeps the keys of the record, and adds the new ones behind them, each once.
No other property changes, and each column is null or a finite number: that of the last formula of
its name, in the record that all formulas before it have left. -/
theorem apply_addsColumns (now : Moment) (record : Record) (definitions : List FormulaDef) :
    ((compile definitions).apply now record).keys =
        record.keys ++
          ((definitions.map FormulaDef.key).filter (· ∉ record.keys)).eraseDups ∧
      (∀ name, name ∉ definitions.map FormulaDef.key →
        ((compile definitions).apply now record).get? name = record.get? name) ∧
      (∀ before last after, definitions = before ++ last :: after →
        (∀ later ∈ after, later.name ≠ last.name) →
          ((compile definitions).apply now record).get? last.key =
            some (Formula.column
              (Formula.evaluate? now ((compile before).apply now record) last.formula))) ∧
      ∀ definition ∈ definitions,
        ((compile definitions).apply now record).get? definition.key = some .null ∨
          ∃ number, Number.isFinite number = true ∧
            ((compile definitions).apply now record).get? definition.key =
              some (.number number) := by
  refine ⟨?_, ?_, ?_, ?_⟩
  · rw [← keys_compile]
    exact CompiledFormula.keys_attachAll now _ record
  · intro name other
    rw [← keys_compile] at other
    exact CompiledFormula.get?_attachAll_of_not_mem now other record
  · rintro before last after rfl isLast
    exact get?_apply_last now record before isLast
  · intro definition member
    obtain ⟨before, last, after, rfl, sameName, isLast⟩ := FormulaDef.exists_last member
    rw [← FormulaDef.key_inj.mpr sameName, get?_apply_last now record before isLast]
    cases evaluated : Formula.evaluate? now ((compile before).apply now record) last.formula with
    | none =>
        exact .inl rfl
    | some number =>
        exact .inr ⟨number, Formula.isFinite_of_evaluate? evaluated, rfl⟩

end FormulaSet

end NoteBase
