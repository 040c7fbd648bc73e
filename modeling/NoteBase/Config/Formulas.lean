import NoteBase.Formula
import NoteBase.Node

/-!
# Formulas in configuration

Formulas are a list of definitions or a mapping from names to formulas. A definition has the fields
`name` and `formula`, and may be given as a list of the two.
-/

namespace NoteBase

namespace FormulaDef

def ofNode? (node : Node) : Option FormulaDef := do
  match ← node.fields? ["name", "formula"] with
  | [name, formula] =>
    let name ← Node.required? Node.text? name
    let formula ← Node.required? Node.text? formula
    some ⟨name, formula⟩
  | _ => none

def toJson (definition : FormulaDef) : Json :=
  .object [("name", .text definition.name), ("formula", .text definition.formula)]

end FormulaDef

namespace Formulas

def ofSettled? : Node → Option Formulas
  | .list _ items => (items.mapM FormulaDef.ofNode?).map .list
  | node => (node.mapping? Node.text?).map .map

def ofNode? (node : Node) : Option Formulas :=
  node.settle?.bind ofSettled?

def toJson : Formulas → Json
  | .list definitions => .array (definitions.map FormulaDef.toJson)
  | .map formulas => .object (formulas.entries.map fun (name, formula) => (name, .text formula))

end Formulas

end NoteBase
