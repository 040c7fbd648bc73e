import NoteBase.OrderedMap

/-!
# Outlines

Which parts of a document are taken. A part that is not taken is passed over, whatever it holds.
-/

namespace NoteBase

inductive Outline where
  | whole
  | items (each : Outline)
  /-- These parts of the values under known keys of a mapping. Of the values under other keys all is
  taken or nothing. -/
  | fields (known : List (String × Outline)) (takesOthers : Bool)

namespace Outline

def item : Outline → Outline
  | .items each => each
  | _ => .whole

/-- The outline of the value under a key, if it is taken. -/
def field? (key : String) : Outline → Option Outline
  | .fields known takesOthers =>
    (Entries.find? key known).or (if takesOthers then some .whole else none)
  | _ => some .whole

end Outline

end NoteBase
