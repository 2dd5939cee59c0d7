import TapeArena.Yaml.Node
import TapeArena.Yaml.Token

/-!
The nodes of a document read from its tokens. A part that is left out is a scalar without characters. An anchor
names a node, and an alias stands for the node that was named, also while that node is still being read. A text
holds one document at most. Tokens are looked at one by one, each as late as possible, so that of several faults the
first one is told.
-/
namespace TapeArena.Yaml

/-- The nodes of a document, and the number of the outermost one. -/
structure Graph where
  nodes : Nodes
  root : Nat

namespace Graph

/-- Where a node stands, which decides what it may be: behind a key in block style, where a sequence needs
    no indentation, elsewhere in block style, or inside a collection in flow style. -/
inductive Place
  | behindKey
  | block
  | flow
  deriving DecidableEq

/-- What is left of the tokens, the nodes that were read, those of them that have a name, the latest one first, and
    what handles of tags stand for. -/
structure Progress where
  left : Scan
  nodes : Nodes
  named : List (Text × Nat)
  handles : List (Text × Text)

/-- Reads from the tokens that are left. -/
abbrev Reader := StateT Progress Read

/-- The tokens do not follow the grammar. -/
def malformed {α : Type} : Reader α := throw .malformed

/-- Marks at which an item of a sequence in block style was left out. -/
def itemEnds : List Token := [.entry,.blockEnd]
/-- Marks at which a key or a value of a mapping in block style was left out. -/
def fieldEnds : List Token := [.key,.value,.blockEnd]
/-- Marks at which an item of a sequence without indentation was left out. -/
def looseEnds : List Token := .entry :: fieldEnds

/-- The next token; none at the end of the document. -/
def next? : Reader (Option Token) := do
  let left := (← get).left
  match left.tokens, left.fault with
  | token :: _, _ => return some token
  | [], none => return none
  | [], some fault => throw fault
def pass : Reader Unit :=
  modify fun progress => { progress with left := { progress.left with tokens := progress.left.tokens.drop 1 } }
/-- The next token is one of these. -/
def nextIn (marks : List Token) : Reader Bool := do return (← next?).any (marks.contains ·)
/-- Passes over the comma between two items in flow style; none stands before the first item or before the
    end. -/
def separate (first : Bool) (closing : Token) : Reader Unit := do
  if first || (← nextIn [closing]) then return
  else if ← nextIn [.comma] then pass
  else malformed

/-! ### Nodes and their properties -/

/-- What stands before a node: its name and its tag in full. -/
structure Properties where
  name : Option Text
  tag : Option Text

/-- The name at the next token. -/
def anchor? : Reader (Option Text) := do
  match ← next? with
  | some (.anchor name) => pass; return some name
  | _ => return none
def tag? : Reader (Option Tag) := do
  match ← next? with
  | some (.tag tag) => pass; return some tag
  | _ => return none
/-- The anchor and the tag before a node, in either order; the handle of the tag has to be known. -/
def properties : Reader Properties := do
  let name ← anchor?
  let tag ← tag?
  let name ← if name.isNone && tag.isSome then anchor? else pure name
  match tag with
  | none => return ⟨name,none⟩
  | some tag =>
    match tag.full? (← get).handles with
    | some tag => return ⟨name,some tag⟩
    | none => malformed

/-- The tag that leaves it to the form of a node what it is. -/
def formTag : Text := lit "!"
/-- What a node with a tag stands for, or without one that tells it, given what its form says. -/
def kindOf (tag : Option Text) (form : Kind) : Kind :=
  match tag with
  | none => form
  | some tag => if tag = formTag then form else .ofTag tag
/-- What a scalar stands for. Without a tag only a plain one is told by its form. -/
def scalarKind (tag : Option Text) (plain : Bool) (text : Text) : Kind :=
  kindOf tag (if plain || tag.isSome then .ofScalar text else .text)

/-- Adds a node that has no name. -/
def add (node : Node) : Reader Nat :=
  modifyGet fun progress => (progress.nodes.size,{ progress with nodes := progress.nodes.push node })
/-- Adds a node with its name, if it has one; a name is given once. -/
def addNamed (name : Option Text) (node : Node) : Reader Nat := do
  match name with
  | none => add node
  | some name =>
    if (← get).named.any (·.1 = name) then malformed
    let number ← add node
    modify fun progress => { progress with named := (name,number) :: progress.named }
    return number
/-- Adds the node of a part that is left out. -/
def addEmpty : Reader Nat := add ⟨.ofScalar [],.scalar []⟩
/-- The node that an alias stands for. -/
def resolve (name : Text) : Reader Nat := do
  match (← get).named.find? (·.1 = name) with
  | some (_,number) => return number
  | none => malformed
/-- Puts what was read into a node. -/
def complete (number : Nat) (content : Content) : Reader Nat := do
  modify fun progress => { progress with nodes := progress.nodes.setContent number content }
  return number
/-- Reads a sequence, whose first token is passed over, by reading its items. -/
def readSequence (before : Properties) (items : Reader (List Nat)) : Reader Nat := do
  let number ← addNamed before.name ⟨kindOf before.tag .sequence,.sequence []⟩
  complete number (.sequence (← items))
def readMapping (before : Properties) (fields : Reader (List (Nat × Nat))) : Reader Nat := do
  let number ← addNamed before.name ⟨kindOf before.tag .mapping,.mapping []⟩
  complete number (.mapping (← fields))

/-! ### The grammar -/

mutual
/-- Reads the node that begins at the next token. -/
def node (place : Place) : Nat → Reader Nat
  | 0 => malformed
  | turns + 1 => do
    if let some (.reference name) ← next? then
      pass
      resolve name
    else
      let before ← properties
      match ← next? with
      | some (.scalar text plain) =>
        pass
        addNamed before.name ⟨scalarKind before.tag plain text,.scalar text⟩
      | some .flowSequence => pass; readSequence before (flowItems true turns)
      | some .flowMapping => pass; readMapping before (flowFields true turns)
      | some .blockSequence =>
        if place = .flow then malformed else pass; readSequence before (items turns)
      | some .blockMapping =>
        if place = .flow then malformed else pass; readMapping before (fields turns)
      | next =>
        if next = some .entry ∧ place = .behindKey then readSequence before (looseItems turns)
        else if before.name.isSome || before.tag.isSome then
          addNamed before.name ⟨scalarKind before.tag true [],.scalar []⟩
        else malformed

/-- Reads a node, unless it was left out: the next token is then one of the marks. -/
def part (marks : List Token) (place : Place) : Nat → Reader Nat
  | 0 => malformed
  | turns + 1 => do if ← nextIn marks then addEmpty else node place turns

/-- Reads the value behind a key; without a colon it was left out. -/
def value (marks : List Token) (place : Place) : Nat → Reader Nat
  | 0 => malformed
  | turns + 1 => do
    if ← nextIn [.value] then
      pass
      part marks place turns
    else addEmpty

/-- Reads the items of a sequence in block style up to its end. -/
def items : Nat → Reader (List Nat)
  | 0 => malformed
  | turns + 1 => do
    match ← next? with
    | some .entry =>
      pass
      let item ← part itemEnds .block turns
      return item :: (← items turns)
    | some .blockEnd => pass; return []
    | _ => malformed

/-- Reads the items of a sequence that stands no deeper than the key before it. -/
def looseItems : Nat → Reader (List Nat)
  | 0 => malformed
  | turns + 1 => do
    if ← nextIn [.entry] then
      pass
      let item ← part looseEnds .block turns
      return item :: (← looseItems turns)
    else return []

/-- Reads the fields of a mapping in block style up to its end. -/
def fields : Nat → Reader (List (Nat × Nat))
  | 0 => malformed
  | turns + 1 => do
    match ← next? with
    | some .key =>
      pass
      let key ← part fieldEnds .behindKey turns
      let value ← value fieldEnds .behindKey turns
      return (key,value) :: (← fields turns)
    | some .blockEnd => pass; return []
    | _ => malformed

/-- Reads the items of a sequence in flow style; a key among them makes a mapping of one field. -/
def flowItems (first : Bool) : Nat → Reader (List Nat)
  | 0 => malformed
  | turns + 1 => do
    separate first .flowSequenceEnd
    match ← next? with
    | some .flowSequenceEnd => pass; return []
    | some .key =>
      pass
      let key ← part [.value,.comma,.flowSequenceEnd] .flow turns
      let value ← value [.comma,.flowSequenceEnd] .flow turns
      let item ← add ⟨.mapping,.mapping [(key,value)]⟩
      return item :: (← flowItems false turns)
    | _ =>
      let item ← node .flow turns
      return item :: (← flowItems false turns)

/-- Reads the fields of a mapping in flow style; an item without a colon is a key without a value. -/
def flowFields (first : Bool) : Nat → Reader (List (Nat × Nat))
  | 0 => malformed
  | turns + 1 => do
    separate first .flowMappingEnd
    match ← next? with
    | some .flowMappingEnd => pass; return []
    | some .key =>
      pass
      let key ← part [.value,.comma,.flowMappingEnd] .flow turns
      let value ← value [.comma,.flowMappingEnd] .flow turns
      return (key,value) :: (← flowFields false turns)
    | _ =>
      let key ← node .flow turns
      let value ← addEmpty
      return (key,value) :: (← flowFields false turns)
end

/-! ### Whole documents -/

/-- Reads the directives before a document; `versioned` tells that the version was given already. No handle
    gets two meanings, and only the first version of the format is known. -/
def directives (versioned : Bool) : Nat → Reader Unit
  | 0 => malformed
  | turns + 1 => do
    match ← next? with
    | some (.directive (.version major)) =>
      pass
      if versioned || major ≠ 1 then malformed else directives true turns
    | some (.directive (.handle name start)) =>
      pass
      if (← get).handles.any (·.1 = name) then malformed
      modify fun progress => { progress with handles := (name,start) :: progress.handles }
      directives versioned turns
    | some (.directive .other) => pass; directives versioned turns
    | _ => modify fun progress => { progress with handles := progress.handles ++ Tag.standardHandles }

/-- The next token is the end of the document or one between documents. -/
def atEnd : Reader Bool := do
  match ← next? with
  | none | some (.directive _) | some .documentStart | some .documentEnd => return true
  | some _ => return false
/-- Reads a document that begins with directives or a mark. -/
def explicit (turns : Nat) : Reader Nat := do
  directives false turns
  if ← nextIn [.documentStart] then pass else malformed
  if ← atEnd then addEmpty else node .block turns
/-- Reads what stands behind a document: marks of its end, and nothing else. Directives of a further document are
    looked at before it is refused. -/
def ending : Nat → Reader Unit
  | 0 => malformed
  | turns + 1 => do
    match ← next? with
    | none => return
    | some .documentEnd => pass; ending turns
    | some _ =>
      modify fun progress => { progress with handles := [] }
      directives false turns
      let _ ← next?
      malformed
/-- Reads a whole document, if there is one. -/
def document? (turns : Nat) : Reader (Option Nat) := do
  match ← next? with
  | none => return none
  | some .documentStart | some (.directive _) =>
    let root ← explicit turns
    ending turns
    return root
  | some _ =>
    modify fun progress => { progress with handles := Tag.standardHandles }
    let root ← node .block turns
    ending turns
    return root

/-- The nodes of a document given by its tokens; none if there is no document. No token needs more than four
    turns. -/
def ofScan (scan : Scan) : Read (Option Graph) := do
  let (root?,progress) ← (document? (4 * scan.tokens.length + 4)).run ⟨scan,#[],[],[]⟩
  return root?.map fun root => ⟨progress.nodes,root⟩

end Graph

end TapeArena.Yaml
