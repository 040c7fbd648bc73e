import NoteBase.Proofs.Formula.Columns
import NoteBase.Proofs.Formula.Independence

/-!
# Attaching formulas again

Formulas that only look back, each one at what is there before it is attached, give the same columns
when they are attached once more. On the way through the formulas, the record of the second pass and
that of the first one differ in the columns that are still to be attached, and no formula sees
these.
-/

namespace NoteBase

open Calendar (Moment)

/-! ## One formula after another -/

namespace CompiledFormula

/-- No formula of a list sees its own column, or the column of a formula behind it. -/
structure LooksBack (formulas : List CompiledFormula) : Prop where
  own : ∀ formula ∈ formulas, formula.Ignores formula.key
  behind : formulas.Pairwise fun formula later => formula.Ignores later.key

variable {formulas rest : List CompiledFormula} {formula : CompiledFormula} {left right : Record}

theorem LooksBack.ignores (looksBack : LooksBack (formula :: rest)) :
    ∀ key ∈ formula.key :: rest.map CompiledFormula.key, formula.Ignores key := by
  intro key isKey
  rcases List.mem_cons.mp isKey with rfl | isLater
  · exact looksBack.own formula List.mem_cons_self
  · obtain ⟨later, inRest, rfl⟩ := List.mem_map.mp isLater
    exact (List.pairwise_cons.mp looksBack.behind).1 later inRest

theorem LooksBack.tail (looksBack : LooksBack (formula :: rest)) : LooksBack rest :=
  ⟨fun later inRest => looksBack.own later (List.mem_cons_of_mem _ inRest),
    (List.pairwise_cons.mp looksBack.behind).2⟩

/-- Records that differ only in columns still to be attached have the next column in common once it
is attached, since its formula sees none of these columns. -/
theorem attach_sameOutside (now : Moment)
    (same : Expr.SameOutside (formula.key :: rest.map CompiledFormula.key) left right)
    (ignores : ∀ key ∈ formula.key :: rest.map CompiledFormula.key, formula.Ignores key)
    (notPath : Record.filePath ∉ formula.key :: rest.map CompiledFormula.key) :
    Expr.SameOutside (rest.map CompiledFormula.key) (attach now left formula)
      (attach now right formula) := by
  have sameValue := value_of_sameOutside now same ignores notPath
  intro name notLater
  rw [get?_attach, get?_attach, sameValue]
  split
  · rfl
  · next notKey =>
    exact same name (mt List.mem_cons.mp (not_or.mpr ⟨notKey, notLater⟩))

/-- Records that differ only in the columns of the formulas become the same. -/
theorem attachAll_sameItems (now : Moment) (looksBack : LooksBack formulas)
    (notPath : Record.filePath ∉ formulas.map CompiledFormula.key)
    (same : Expr.SameOutside (formulas.map CompiledFormula.key) left right) :
    (formulas.foldl (attach now) left).SameItems (formulas.foldl (attach now) right) := by
  induction formulas generalizing left right with
  | nil =>
      exact fun key => same key List.not_mem_nil
  | cons formula rest inductionHypothesis =>
      exact inductionHypothesis looksBack.tail (mt (List.mem_cons_of_mem _) notPath)
        (attach_sameOutside now same looksBack.ignores notPath)

/-- The keys of all columns are there when the formulas are attached again. -/
theorem keys_attachAll_again (now : Moment) (formulas : List CompiledFormula) (record : Record) :
    (formulas.foldl (attach now) (formulas.foldl (attach now) record)).keys =
      (formulas.foldl (attach now) record).keys := by
  have known : (formulas.map CompiledFormula.key).filter
      (· ∉ (formulas.foldl (attach now) record).keys) = [] :=
    List.filter_eq_nil_iff.mpr fun name isColumn => by
      simpa using mem_keys_attachAll now isColumn record
  rw [keys_attachAll, known]
  exact List.append_nil _

theorem attachAll_again (now : Moment) (looksBack : LooksBack formulas)
    (notPath : Record.filePath ∉ formulas.map CompiledFormula.key) (record : Record) :
    formulas.foldl (attach now) (formulas.foldl (attach now) record) =
      formulas.foldl (attach now) record := by
  have same : Expr.SameOutside (formulas.map CompiledFormula.key)
      (formulas.foldl (attach now) record) record :=
    fun _ other => get?_attachAll_of_not_mem now other record
  exact (attachAll_sameItems now looksBack notPath same).eq_of_keys
    (keys_attachAll_again now formulas record)

end CompiledFormula

/-! ## All formulas of a base -/

namespace FormulaSet

/-- No formula of the set sees its own column, or the column of a formula behind it. -/
def LooksBack (set : FormulaSet) : Prop :=
  CompiledFormula.LooksBack set.formulas

/-- Attaching formulas that only look back once more changes nothing, the order of the keys
included. -/
theorem apply_apply (now : Moment) (record : Record) {definitions : List FormulaDef}
    (looksBack : (compile definitions).LooksBack) :
    (compile definitions).apply now ((compile definitions).apply now record) =
      (compile definitions).apply now record := by
  refine CompiledFormula.attachAll_again now looksBack ?_ record
  rw [keys_compile]
  intro isPath
  obtain ⟨definition, _, isKey⟩ := List.mem_map.mp isPath
  exact definition.key_ne_filePath isKey

def total : FormulaDef :=
  ⟨"total", "rating"⟩

def doubledTotal : FormulaDef :=
  ⟨"total", "rating + rating"⟩

def share : FormulaDef :=
  ⟨"share", "formula.total / rating"⟩

/-- A name that is given twice and then seen, on a note with an old value of the last column. -/
theorem apply_apply_share :
    (compile [total, doubledTotal, share]).LooksBack ∧
      (compile [total, doubledTotal, share]).apply Moment.epoch
          ((compile [total, doubledTotal, share]).apply Moment.epoch
            (OrderedMap.ofList [("formula.share", .text "old"), ("rating", .number 4)])) =
        (compile [total, doubledTotal, share]).apply Moment.epoch
          (OrderedMap.ofList [("formula.share", .text "old"), ("rating", .number 4)]) := by
  have totalRead : Formula.compile? total.formula = some (.property ["rating"]) := rfl
  have doubledRead : Formula.compile? doubledTotal.formula =
      some (.binary .add (.property ["rating"]) (.property ["rating"])) := rfl
  have shareRead : Formula.compile? share.formula =
      some (.binary .div (.property ["formula", "total"]) (.property ["rating"])) := rfl
  have totalIgnores : ∀ key ∈ ["formula.total", "formula.share"],
      (CompiledFormula.ofDef total).Ignores key := fun key isKey =>
    CompiledFormula.ignores_of_compile? totalRead rfl (by revert key; decide)
  have doubledIgnores : ∀ key ∈ ["formula.total", "formula.share"],
      (CompiledFormula.ofDef doubledTotal).Ignores key := fun key isKey =>
    CompiledFormula.ignores_of_compile? doubledRead rfl (by revert key; decide)
  have shareIgnores : (CompiledFormula.ofDef share).Ignores "formula.share" :=
    CompiledFormula.ignores_of_compile? shareRead rfl (by decide)
  have looksBack : (compile [total, doubledTotal, share]).LooksBack := by
    constructor
    · intro formula member
      simp only [compile, List.map_cons, List.map_nil, List.mem_cons, List.not_mem_nil,
        or_false] at member
      rcases member with rfl | rfl | rfl
      · exact totalIgnores _ (by decide)
      · exact doubledIgnores _ (by decide)
      · exact shareIgnores
    · simp only [compile, List.map_cons, List.map_nil, List.pairwise_cons, List.mem_cons,
        List.not_mem_nil, or_false, forall_eq_or_imp, forall_eq]
      refine ⟨⟨totalIgnores _ (by decide), totalIgnores _ (by decide)⟩,
        doubledIgnores _ (by decide), ?_⟩
      simp
  exact ⟨looksBack, apply_apply Moment.epoch _ looksBack⟩

end FormulaSet

end NoteBase
