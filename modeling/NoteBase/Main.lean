import NoteBase.CommandLine.Report
import Std.Time

/-!
# The program

Reads the arguments and the files that they name, and prints the report.
-/

namespace NoteBase

open Calendar (Date Moment)
open CommandLine (Found Options)

/-- The moment that is taken if the clock cannot be read. -/
def fallbackMoment : Moment :=
  Moment.epoch

def localTime : IO Moment := do
  try
    let now ← Std.Time.PlainDateTime.now
    let moment? :=
      (Date.of? now.date.year.toInt now.date.month.toNat now.date.day.toNat).bind fun date =>
        Moment.ofClock? date now.time.hour.toNat now.time.minute.toNat now.time.second.toNat
          now.time.nanosecond.toNat
    pure (moment?.getD fallbackMoment)
  catch _ => pure fallbackMoment

/-- Looks what is found at a path. A directory is no file. -/
def look (path : String) : IO Found := do
  try
    let text ← IO.FS.readFile path
    pure (.file (some text))
  catch
    | .noFileOrDirectory .. => pure .nothing
    | .inappropriateType .. => pure .nothing
    | _ => pure (.file none)

def lookAll (options : Options) : IO (List (String × Found)) :=
  ([options.content, options.base] ++ options.types.toList).mapM fun path => do
    pure (path, ← look path)

end NoteBase

open NoteBase in
def main (arguments : List String) : IO UInt32 := do
  match CommandLine.Options.ofArguments? arguments with
  | none =>
    IO.eprintln "usage: --content FILE --base BASE [--view NAME] [--types FILE] [--pretty]"
    pure 2
  | some options =>
    let found ← lookAll options
    let files := fun path => (Entries.find? path found).getD .nothing
    match CommandLine.report (← localTime) files options with
    | .ok text =>
      IO.println text
      pure 0
    | .error error =>
      IO.eprintln error.message
      pure 1
