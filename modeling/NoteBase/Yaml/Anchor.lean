import NoteBase.OrderedMap
import NoteBase.Yaml.Token

/-!
# Anchors and aliases

An anchor gets the number of names that anchors before it have. An alias stands for the number that
an anchor in front of it with its name has got last, and a number for the last anchor that has it.
So a name can be given again; then its new anchor shares its number with the next anchor of a new
name, and the last of these counts.
-/

namespace NoteBase.Yaml

structure Anchors where
  count : Nat
  numbers : List (String × Nat)
  /-- The places of the anchors by their numbers, the last one first. -/
  places : List (Nat × Nat)

namespace Anchors

def none : Anchors := ⟨0, [], []⟩

def add (name : String) (anchors : Anchors) : Anchors :=
  let number := anchors.numbers.length
  { count := anchors.count + 1
    numbers := Entries.insert name number anchors.numbers
    places := (number, anchors.count) :: anchors.places }

/-- Reads all anchors, and gives the numbers that the aliases stand for. -/
def readAll? (anchors : Anchors) : List Token → Option (Anchors × List Nat)
  | [] => some (anchors, [])
  | .anchor name :: rest => (anchors.add name).readAll? rest
  | .alias name :: rest => do
    let number ← Entries.find? name anchors.numbers
    let (anchors, numbers) ← anchors.readAll? rest
    some (anchors, number :: numbers)
  | _ :: rest => anchors.readAll? rest

end Anchors

/-- The places of the anchors that the aliases stand for. Both are counted from the left. -/
def aliasPlaces? (tokens : List Token) : Option (List Nat) := do
  let (anchors, numbers) ← Anchors.none.readAll? tokens
  numbers.mapM fun number => anchors.places.lookup number

end NoteBase.Yaml
