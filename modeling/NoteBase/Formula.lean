import NoteBase.Expr.Eval
import NoteBase.Expr.Parser

/-!
# Formulas

A formula is a named expression whose number is attached to a record as the property
`formula.<name>`. It has a number or none: it has none if a property that it refers to has no value,
if it is malformed, or if its result is not a finite number.

Formulas are attached in the order of their declaration, so that each one sees those before it.
-/

namespace NoteBase

open Calendar (Moment)

structure FormulaDef where
  name : String
  formula : String
deriving DecidableEq

/-- What is in front of the name in the key of a formula's property. -/
def formulaPrefix : String := "formula."

/-- The key of the property that a formula is attached as. -/
def FormulaDef.key (definition : FormulaDef) : String :=
  formulaPrefix ++ definition.name

/-- The formulas of a base: a list of definitions, or a mapping from names to formulas. -/
inductive Formulas where
  | list (definitions : List FormulaDef)
  | map (formulas : OrderedMap String)

namespace Formulas

/-- The definitions in the order of their declaration. -/
def definitions : Formulas → List FormulaDef
  | .list definitions => definitions
  | .map formulas => formulas.entries.map fun (name, formula) => ⟨name, formula⟩

def isEmpty (formulas : Formulas) : Bool :=
  formulas.definitions.isEmpty

end Formulas

namespace Formula

/-! ## The expression of a formula -/

/-- Drops the mark of a block text from the front: a bar, an optional sign, and blanks. -/
def dropBlockMark (chars : List Char) : List Char :=
  match chars with
  | '|' :: '+' :: rest => Text.trimStart rest
  | '|' :: '-' :: rest => Text.trimStart rest
  | '|' :: rest => Text.trimStart rest
  | _ => chars

def source (formula : String) : String :=
  String.ofList (Text.trimChars (dropBlockMark formula.toList))

/-- The expression of a formula, if it is well formed. -/
def compile? (formula : String) : Option Expr :=
  (Expr.parse (source formula)).toOption

/-! ## The number of a formula -/

/-- The finite number that a result stands for: that of a number or a date. -/
def finiteNumber? (value : Value) : Option Float :=
  match value with
  | .number number => if Number.isFinite number then some number else none
  | .date _ => if Number.isFinite value.toNumber then some value.toNumber else none
  | _ => none

def numberOf? (now : Moment) (record : Record) (expr : Expr) : Option Float :=
  (Expr.evalFormula now record expr).toOption.bind finiteNumber?

def evaluate? (now : Moment) (record : Record) (formula : String) : Option Float :=
  (compile? formula).bind (numberOf? now record)

end Formula

/-! ## Attaching formulas -/

/-- A formula that has been parsed: the key of its property, and its expression if it has one. -/
structure CompiledFormula where
  key : String
  expr : Option Expr

namespace CompiledFormula

def ofDef (definition : FormulaDef) : CompiledFormula :=
  ⟨definition.key, Formula.compile? definition.formula⟩

/-- The value of a formula in a record: its number, or null if it has none. -/
def value (now : Moment) (record : Record) (formula : CompiledFormula) : Value :=
  match formula.expr.bind (Formula.numberOf? now record) with
  | some number => .number number
  | none => .null

def attach (now : Moment) (record : Record) (formula : CompiledFormula) : Record :=
  record.insert formula.key (formula.value now record)

end CompiledFormula

structure FormulaSet where
  formulas : List CompiledFormula

namespace FormulaSet

def compile (definitions : List FormulaDef) : FormulaSet :=
  ⟨definitions.map CompiledFormula.ofDef⟩

def size (set : FormulaSet) : Nat :=
  set.formulas.length

def isEmpty (set : FormulaSet) : Bool :=
  set.formulas.isEmpty

/-- Attaches every formula to a record, one after another. -/
def apply (now : Moment) (set : FormulaSet) (record : Record) : Record :=
  set.formulas.foldl (CompiledFormula.attach now) record

def applyAll (now : Moment) (set : FormulaSet) (records : List Record) : List Record :=
  records.map (set.apply now)

end FormulaSet

def Formulas.compile (formulas : Formulas) : FormulaSet :=
  FormulaSet.compile formulas.definitions

end NoteBase
