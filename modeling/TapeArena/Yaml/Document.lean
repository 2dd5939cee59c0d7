import TapeArena.Yaml.Graph
import TapeArena.Yaml.Literal
import TapeArena.Yaml.Merging

/-!
The value of a document. Every node has one value, wherever it stands, and collections tell their parts by the numbers
of their nodes, so that a collection may lie inside itself. Collections are filled level by level, which decides which
of several faults is told.
-/
namespace TapeArena.Yaml

/-- The value of a node. Of a scalar it is told where it came from, unless it is one and the same wherever it
    stands. -/
inductive Value
  | single (value : Datum) (origin : Option Nat)
  | list (items : List Nat)
  | pairs (items : List (Nat × Nat))
  | dict (entries : List (Datum × Nat))
  | set (members : List Datum)

/-- The values of the nodes of a document by their numbers, and the number of the outermost one. -/
structure Document where
  values : Array (Option Value)
  root : Nat

namespace Document

/-! ### Forming values -/

/-- What was formed so far: the nodes, which merging changes, the values, and the collections that are to be filled
    next, the latest one first. `merges` is the number of merging keys at the beginning. -/
structure Formation where
  nodes : Nodes
  values : Array (Option Value)
  waiting : List Nat
  merges : Nat

/-- Forms values, or fails. -/
abbrev Forming := StateT Formation Read

/-- The value of a node, if it was formed. -/
def formed? (number : Nat) : Forming (Option Value) := do return (← get).values[number]?.join
def node (number : Nat) : Forming Node := do return (← get).nodes[number]?.getD default
/-- Notes the value of a node. -/
def note (number : Nat) (value : Value) : Forming Value := do
  modify fun formation => { formation with values := formation.values.setIfInBounds number (some value) }
  return value
/-- Notes the value of a collection that is still empty and is to be filled. -/
def await (number : Nat) (value : Value) : Forming Value := do
  modify fun formation => { formation with waiting := number :: formation.waiting }
  note number value
/-- Forms the value of a scalar, or of a mapping that stands for one. -/
def formSingle (number : Nat) (kind : Kind) : Forming Value := do
  let nodes := (← get).nodes
  match nodes.text? (nodes.size + 1) number with
  | none => throw .malformed
  | some text =>
    let shared := kind = .fraction && Literal.isNotNumber text
    note number (.single (← kind.read text) (if shared then none else some number))
/-- Forms the value of a node, unless it was formed before; a collection is filled later. -/
def form (number : Nat) : Forming Value := do
  match ← formed? number with
  | some value => return value
  | none =>
    match (← node number).kind with
    | .sequence => await number (.list [])
    | .pairs => await number (.pairs [])
    | .mapping => await number (.dict [])
    | .set => await number (.set [])
    | kind => formSingle number kind

/-! ### Filling collections -/

/-- Two values of scalars are the same key. What is no number is the same key only as what came from the same
    place. -/
def sameKey (a b : Datum × Option Nat) : Bool :=
  match a.1, b.1 with
  | .float x, .float y => x == y || (x.isNaN && y.isNaN && a.2 = b.2)
  | x, y => Datum.sameKey x y
/-- Forms a key and a value; collections are no keys. -/
def formField (field : Nat × Nat) : Forming ((Datum × Option Nat) × Nat) := do
  match ← form field.1 with
  | .single key origin =>
    let _ ← form field.2
    return ((key,origin),field.2)
  | _ => throw .malformed
/-- Forms the fields of a mapping after its merging keys are gone. -/
def formFields (number : Nat) : Forming (List (Datum × Nat)) := do
  let merges := (← get).merges
  let nodes ← modifyGet fun formation => (formation.nodes,{ formation with nodes := #[] })
  let ((),nodes) ← (Merging.merge (3 * merges + 3) number).run nodes
  let fields := nodes.fields number
  modify fun formation => { formation with nodes }
  let entries := Entries.ofList sameKey (← fields.mapM formField)
  return entries.map fun ((key,_),value) => (key,value)
/-- Forms a pair, which is a mapping with one field. -/
def formPair (number : Nat) : Forming (Nat × Nat) := do
  match (← node number).content with
  | .mapping [(key,value)] =>
    let _ ← form key
    let _ ← form value
    return (key,value)
  | _ => throw .malformed
/-- Fills a collection. Its content has to have the form of what it stands for. -/
def fill (number : Nat) : Forming Unit := do
  let ⟨kind,content⟩ ← node number
  let value ← match kind, content with
    | .sequence, .sequence items => do
      items.forM fun item => do let _ ← form item
      pure (.list items)
    | .pairs, .sequence items => do pure (.pairs (← items.mapM formPair))
    | .mapping, .mapping _ => do pure (.dict (← formFields number))
    | .set, .mapping _ => do pure (.set (Datum.inSetOrder ((← formFields number).map (·.1))))
    | _, _ => throw .malformed
  let _ ← note number value
/-- Fills the collections that are waiting, then those that were found in them, and so on. -/
def fillAll : Nat → Forming Unit
  | 0 => return
  | turns + 1 => do
    let waiting ← modifyGet fun formation => (formation.waiting,{ formation with waiting := [] })
    unless waiting.isEmpty do
      waiting.reverse.forM fill
      fillAll turns

/-- The document given by its nodes. Every level fills a collection at least. -/
def ofGraph (graph : Graph) : Read Document := do
  let size := graph.nodes.size
  let start : Formation := ⟨graph.nodes,Array.replicate size none,[],Merging.count graph.nodes⟩
  let action : Forming Unit := do
    let _ ← form graph.root
    fillAll (size + 1)
  let ((),formation) ← action.run start
  return ⟨formation.values,graph.root⟩

/-! ### Telling values -/

/-- The value of a node, given how its parts are told, those under keys by their key. A list or a mapping that is
    closed is told without its contents. -/
def layer (document : Document) (closed : Bool) (part : Nat → Datum) (under : Datum → Nat → Datum) (number : Nat) :
    Datum :=
  match document.values[number]?.join with
  | none => .null
  | some (.single value _) => value
  | some (.set members) => .set members
  | some (.list items) => if closed then .elided false else .list (items.map part)
  | some (.pairs items) =>
    if closed then .elided false else .list (items.map fun (key,value) => .tuple [part key,part value])
  | some (.dict entries) =>
    if closed then .elided true else .dict (entries.map fun (key,value) => (key,under key value))
/-- A value with all that lies in it. Inside itself a collection is closed; `path` are the collections that the value
    lies in, of which there are no more than turns. -/
def whole (document : Document) (path : List Nat) : Nat → Nat → Datum
  | 0, _ => .null
  | turns + 1, number =>
    let inner := document.whole (number :: path) turns
    document.layer (path.contains number) inner (fun _ => inner) number
/-- The values of all nodes, each down to some levels below it, as often as a collection lies there inside itself.
    Collections on the last level are closed, but values under the key `full` are told with all that lies in them.
    The values of one level are made once and shared by all values above them. -/
def levels (document : Document) (full : Text) : Nat → Array Datum
  | 0 => (Array.range document.values.size).map (document.layer true (fun _ => .null) (fun _ _ => .null))
  | count + 1 =>
    let below := document.levels full count
    let part := fun number => below[number]?.getD .null
    let under := fun (key : Datum) value =>
      if key.isText full then document.whole [] (document.values.size + 1) value else part value
    (Array.range document.values.size).map (document.layer false part under)
/-- The value of a document down to some levels below it, with all that lies in the values under one key. -/
def value (document : Document) (full : Text) (count : Nat) : Datum :=
  (document.levels full count)[document.root]?.getD .null

end Document

/-- Reads a document; a text without one gives a document of no value. -/
def read (text : Text) : Read Document := do
  match ← Graph.ofScan (.ofText text) with
  | some graph => Document.ofGraph graph
  | none => return ⟨#[],0⟩

end TapeArena.Yaml
