import NoteBase.Content.Collect
import NoteBase.Formula
import NoteBase.View.Apply

/-!
# Bases

A base bundles filters, formulas and views. Its filters are applied first, then its formulas are
attached in the order of their declaration, and then each view is applied on its own.
-/

namespace NoteBase

open Calendar (Moment)

/-- What can go wrong when a base is read or a view is rendered. -/
inductive BaseError where
  | json
  | yaml
  | file
  | documentNotFound (address : String)
  | viewNotFound (name : String)
deriving DecidableEq

def BaseError.message : BaseError → String
  | .json => "malformed JSON"
  | .yaml => "malformed YAML"
  | .file => "cannot read the file"
  | .documentNotFound address => "Document not found: " ++ address
  | .viewNotFound name => "View not found: " ++ name

structure BaseConfig where
  filters : Option FilterSpec
  formulas : Option Formulas
  views : List ViewSpec

namespace BaseConfig

def formulaSet (base : BaseConfig) : FormulaSet :=
  match base.formulas with
  | some formulas => formulas.compile
  | none => ⟨[]⟩

/-- The records that pass the filters, with the formulas attached. -/
def process (now : Moment) (base : BaseConfig) (records : List Record) : List Record :=
  base.formulaSet.applyAll now (FilterSpec.filterRecords now base.filters records)

/-- The results of all views, in the order of their declaration. -/
def render (now : Moment) (base : BaseConfig) (records : List Record) : List ViewResult :=
  base.views.map fun view => view.apply now (base.process now records)

def view (base : BaseConfig) (name : String) : Except BaseError ViewSpec :=
  match base.views.find? fun view => view.name = some name with
  | some view => .ok view
  | none => .error (.viewNotFound name)

def renderView (now : Moment) (base : BaseConfig) (records : List Record) (name : String) :
    Except BaseError ViewResult := do
  let view ← base.view name
  .ok (view.apply now (base.process now records))

end BaseConfig

end NoteBase
