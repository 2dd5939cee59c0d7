import TapeArena.Yaml.Fault
import TapeArena.Yaml.Node

/-!
Merging keys. A mapping takes over the fields of the mappings under its merging keys; they come before its own ones,
and its merging keys are gone afterwards. Nodes are changed in place, because a mapping may lie among those that it
merges. Every step takes a merging key away and brings none, so their number bounds the steps.
-/
namespace TapeArena.Yaml

namespace Merging

/-- Changes nodes, or fails. -/
abbrev Change := StateT Nodes Read

/-- What stands for a key that stands for itself becomes a text. -/
def settleKeys (keys : List Nat) : Change Unit :=
  modify fun nodes => keys.foldl
    (fun nodes key => if nodes.kind key = .self then nodes.setKind key .text else nodes) nodes

mutual
/-- Merges the fields of a mapping from some index on. Gives the fields that are taken over. -/
def mergeFrom : Nat → Nat → Nat → Change (List (Nat × Nat))
  | 0, _, _ => throw .malformed
  | turns + 1, number, index => do
    let fields := (← get).fields number
    let nodes ← get
    match (fields.drop index).findIdx? fun (key,_) => nodes.kind key = .merge with
    | none =>
      settleKeys ((fields.drop index).map (·.1))
      return []
    | some distance =>
      settleKeys (((fields.drop index).take distance).map (·.1))
      let place := index + distance
      modify fun nodes => nodes.setContent number (.mapping (fields.eraseIdx place))
      let taken ← match fields[place]? with
        | some (_,value) => takenFrom turns value
        | none => pure []
      return taken ++ (← mergeFrom turns number place)
def merge : Nat → Nat → Change Unit
  | 0, _ => throw .malformed
  | turns + 1, number => do
    let taken ← mergeFrom turns number 0
    modify fun nodes =>
      if taken.isEmpty then nodes else nodes.setContent number (.mapping (taken ++ nodes.fields number))
/-- The fields that a merging key takes over from its value: those of a mapping, or those of several ones, the last
    one first. -/
def takenFrom : Nat → Nat → Change (List (Nat × Nat))
  | 0, _ => throw .malformed
  | turns + 1, number => do
    match (← get).content number with
    | .scalar _ => throw .malformed
    | .mapping _ =>
      merge turns number
      return (← get).fields number
    | .sequence items =>
      let several ← items.mapM fun item => do
        match (← get).content item with
        | .mapping _ =>
          merge turns item
          return (← get).fields item
        | _ => throw .malformed
      return several.reverse.flatten
end

def count (nodes : Nodes) : Nat :=
  nodes.foldl (fun count node =>
    match node.content with
    | .mapping fields => count + fields.countP fun (key,_) => nodes.kind key = .merge
    | _ => count) 0

end Merging

end TapeArena.Yaml
