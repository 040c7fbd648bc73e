import NoteBase.Outline
import NoteBase.Yaml.Scalar

/-!
# Trees of YAML

A document as it is written, before aliases are followed. A part of it becomes a node: aliases are
followed as they are met, but not too often, and collections may not be nested too deep. What is
passed over does not count.
-/

namespace NoteBase.Yaml

/-! ## Trees -/

inductive Tree where
  | scalar (tag : Option TagText) (source : Source)
  | list (tag : Option TagText) (items : List Tree)
  | map (tag : Option TagText) (entries : List (Tree × Tree))
  | alias (place : Nat)

namespace Tree

def absent : Tree :=
  .scalar none .omitted

mutual

/-- The size of a node: one for a scalar and an alias, and two for the ends of a collection. -/
def size : Tree → Nat
  | .scalar _ _ => 1
  | .list _ items => 2 + sizeOfItems items
  | .map _ entries => 2 + sizeOfEntries entries
  | .alias _ => 1

def sizeOfItems : List Tree → Nat
  | [] => 0
  | item :: rest => size item + sizeOfItems rest

def sizeOfEntries : List (Tree × Tree) → Nat
  | [] => 0
  | (key, value) :: rest => size key + size value + sizeOfEntries rest

end

end Tree

/-- A document: its node, and the nodes that have an anchor, by the place of the anchor. -/
structure Document where
  root : Tree
  anchored : List (Nat × Tree)

/-! ## From trees to nodes -/

/-- Follows an alias; any other node stays. The state says how often aliases may still be
followed. -/
def follow (anchored : List (Nat × Tree)) (tree : Tree) : StateT Nat Option Tree :=
  match tree with
  | .alias place => do
    match ← get with
    | 0 => failure
    | left + 1 =>
      set left
      match anchored.lookup place with
      | some tree => pure tree
      | none => failure
  | tree => pure tree

/-- A collection with its tag, which may be one of its own. -/
def tagCollection (tag : Option TagText) (node : Node) : Node :=
  match tag.bind ownTag? with
  | some name => .tagged name node
  | none => node

/-- The node that a tree stands for, as far as it is taken. `depth` is the number of levels of
nesting that are left. In the place of what is passed over there is null. -/
def takeTree (anchored : List (Nat × Tree)) : Nat → Outline → Tree → StateT Nat Option Node
  | 0, _, tree => do
    match ← follow anchored tree with
    | .scalar tag source => pure (source.toNode tag)
    | _ => failure
  | depth + 1, outline, tree => do
    match ← follow anchored tree with
    | .scalar tag source => pure (source.toNode tag)
    | .list tag items =>
      let items ← items.mapM (takeTree anchored depth outline.item)
      pure (tagCollection tag (.list false items))
    | .map tag entries =>
      let entries ← entries.mapM fun (key, value) => do
        let key ← takeTree anchored depth .whole key
        match outline.field? (key.text?.getD "") with
        | some outline => pure (key, ← takeTree anchored depth outline value)
        | none => pure (key, Node.null)
      pure (tagCollection tag (.map entries))
    | .alias _ => failure

def maxNesting : Nat := 128

/-- How often aliases are followed in a document of a size. -/
def maxAliases (size : Nat) : Nat := 100 * size

/-- The node of a document, as far as it is taken. -/
def Document.toNode? (outline : Outline) (document : Document) : Option Node :=
  (takeTree document.anchored maxNesting outline document.root).run' (maxAliases document.root.size)

end NoteBase.Yaml
