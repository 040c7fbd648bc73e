import NoteBase.CommandLine.Options
import NoteBase.Config.Base
import NoteBase.Json.Writer

/-!
# Reports

What the command line prints: the results of the views of a base over the notes of a content tree.
The files are read through a function from paths to what is found there.
-/

namespace NoteBase.CommandLine

open Calendar (Moment)

inductive Found where
  | nothing
  /-- There is a file, whose text may be impossible to read. -/
  | file (text : Option String)
deriving DecidableEq

namespace Found

def isFile : Found → Bool
  | .nothing => false
  | .file _ => true

def read : Found → Except BaseError String
  | .file (some text) => .ok text
  | _ => .error .file

end Found

def fromJson {Part : Type} (part? : Option Part) : Except BaseError Part :=
  match part? with
  | some part => .ok part
  | none => .error .json

/-- The hints in the file at a path, if there is one. -/
def readHints (files : String → Found) (path : Option String) :
    Except BaseError (Option PropertyHints) :=
  match path with
  | some path => do
    let text ← (files path).read
    let hints ← fromJson (PropertyHints.ofFileText? text)
    .ok (some hints)
  | none => .ok none

def readBase (files : String → Found) (path : String) : Except BaseError BaseConfig := do
  let text ← (files path).read
  BaseConfig.ofFile path text

/-- The base that the option names: a file, or else the address of a document. -/
def findBase (files : String → Found) (tree : ContentTree) (name : String) :
    Except BaseError BaseConfig :=
  if (files name).isFile then readBase files name else BaseConfig.ofTree tree name

/-- The results of the views that the options ask for. -/
def results (now : Moment) (files : String → Found) (options : Options) :
    Except BaseError (List ViewResult) := do
  let text ← (files options.content).read
  let tree ← fromJson (ContentTree.ofText? text)
  let hints ← readHints files options.types
  let records := tree.records hints
  let base ← findBase files tree options.base
  match options.view with
  | some name => do
    let result ← base.renderView now records name
    .ok [result]
  | none => .ok (base.render now records)

def printed (pretty : Bool) (results : List ViewResult) : String :=
  let json : Json := .array (results.map ViewResult.toJson)
  if pretty then json.pretty else json.compact

def report (now : Moment) (files : String → Found) (options : Options) :
    Except BaseError String :=
  (results now files options).map (printed options.pretty)

end NoteBase.CommandLine
