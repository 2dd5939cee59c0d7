import TapeArena.Yaml.Kind

/-!
The nodes of a document. Nodes are told by their numbers, so that one node may stand in several places, and inside
itself as well.
-/
namespace TapeArena.Yaml

/-- What a node consists of. The keys and values of a mapping are its fields, in order. -/
inductive Content
  | scalar (text : Text)
  | sequence (items : List Nat)
  | mapping (fields : List (Nat × Nat))
  deriving DecidableEq

/-- A node of a document: what it stands for, and what it consists of. -/
structure Node where
  kind : Kind
  content : Content
  deriving DecidableEq

instance : Inhabited Node := ⟨.unknown,.scalar []⟩

/-- The nodes of a document by their numbers. -/
abbrev Nodes := Array Node

namespace Nodes

/-- What a node stands for; without a node of this number nothing is known. -/
def kind (nodes : Nodes) (number : Nat) : Kind := (nodes[number]?.getD default).kind
def content (nodes : Nodes) (number : Nat) : Content := (nodes[number]?.getD default).content
/-- The fields of a node; only a mapping has any. -/
def fields (nodes : Nodes) (number : Nat) : List (Nat × Nat) :=
  match nodes.content number with
  | .mapping fields => fields
  | _ => []
def setContent (nodes : Nodes) (number : Nat) (content : Content) : Nodes :=
  nodes.modify number fun node => { node with content }
def setKind (nodes : Nodes) (number : Nat) (kind : Kind) : Nodes :=
  nodes.modify number fun node => { node with kind }

/-- The text of a node: that of a scalar, or that of the first value in a mapping whose key stands for itself. A
    turn is taken for each mapping on the way. -/
def text? (nodes : Nodes) : Nat → Nat → Option Text
  | 0, _ => none
  | turns + 1, number =>
    match nodes.content number with
    | .scalar text => some text
    | .sequence _ => none
    | .mapping fields =>
      (fields.find? fun (key,_) => nodes.kind key = .self).bind fun (_,value) => text? nodes turns value

end Nodes

end TapeArena.Yaml
