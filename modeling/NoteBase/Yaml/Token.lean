/-!
# Tokens of YAML

The parts that a document is written with. Block collections have no brackets in the text; their
starts and ends follow from the columns.
-/

namespace NoteBase.Yaml

/-- A scalar as it is written, without quotes and escapes. -/
structure Source where
  text : String
  isPlain : Bool
deriving DecidableEq

/-- The text of a tag. Escaped octets that are no character are `none`. -/
abbrev TagText := List (Option Char)

inductive Token where
  | versionDirective (major minor : Nat)
  /-- What a handle stands for in the tags of a document. -/
  | tagDirective (handle : String) (start : TagText)
  | documentStart
  | documentEnd
  | blockSequenceStart
  | blockMappingStart
  | blockEnd
  | flowSequenceStart
  | flowSequenceEnd
  | flowMappingStart
  | flowMappingEnd
  | blockEntry
  | flowEntry
  | key
  | value
  | anchor (name : String)
  | alias (name : String)
  /-- The tag of the node that follows. Without a handle it is complete. -/
  | tag (handle : String) (suffix : TagText)
  | scalar (source : Source)
deriving DecidableEq

end NoteBase.Yaml
