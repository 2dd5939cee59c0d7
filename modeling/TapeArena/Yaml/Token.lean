import TapeArena.Yaml.Block
import TapeArena.Yaml.Tag

/-!
The tokens of a document. Collections in block style begin and end by indentation. A token that may turn
out to be a key is remembered as a candidate; when a colon follows on the same line, the mark of a key is
put before it, and before that the beginning of a mapping if the key stands deeper than all before. Whoever takes
the tokens one by one meets a fault only where they end, so the faults of the tokens before it come first.
-/
namespace TapeArena.Yaml

/-- What a document consists of. -/
inductive Token
  | directive (directive : Directive)
  | documentStart
  | documentEnd
  | blockSequence
  | blockMapping
  | blockEnd
  | entry
  | key
  | value
  | flowSequence
  | flowSequenceEnd
  | flowMapping
  | flowMappingEnd
  | comma
  | reference (name : Text)
  | anchor (name : Text)
  | tag (tag : Tag)
  | scalar (text : Text) (plain : Bool)
  deriving DecidableEq

namespace Token

/-- A token that may turn out to be a key: its number among the tokens and its place. A required one has
    to turn out to be a key. -/
structure Candidate where
  token : Nat
  required : Bool
  line : Nat
  column : Nat
  index : Nat

/-- What was read so far. `released` counts the tokens that were settled and given out, and `tokens` are those behind
    them. `indents` are the columns of the open collections in block style, the innermost first; `depth` counts the
    open collections in flow style. There is one candidate at most on each depth. -/
structure Reader where
  cursor : Cursor
  released : Nat
  tokens : Array Token
  indents : List Int
  depth : Nat
  keyAllowed : Bool
  candidates : List (Nat × Candidate)

/-- The longest distance between the beginning of a key and its colon. -/
def longestKey : Nat := 1024

namespace Reader

/-- A reader at the beginning of a document. -/
def start (document : Text) : Reader :=
  { cursor := .start document, released := 0, tokens := #[], indents := [], depth := 0, keyAllowed := true,
    candidates := [] }

def inFlow (reader : Reader) : Bool := reader.depth ≠ 0
/-- The column of the innermost collection in block style. -/
def indent (reader : Reader) : Int := reader.indents.headD (-1)
def column (reader : Reader) : Int := reader.cursor.column
/-- The number of the next token. -/
def number (reader : Reader) : Nat := reader.released + reader.tokens.size
/-- Puts a token at a number, before the tokens that stand there. -/
def insert (number : Nat) (token : Token) (reader : Reader) : Reader :=
  { reader with tokens := reader.tokens.insertIdxIfInBounds (number - reader.released) token }
def emit (token : Token) (reader : Reader) : Reader := { reader with tokens := reader.tokens.push token }
def skip (n : Nat) (reader : Reader) : Reader := { reader with cursor := reader.cursor.skip n }
/-- Says whether a key may begin at the next token. -/
def allowKey (allowed : Bool) (reader : Reader) : Reader := { reader with keyAllowed := allowed }

/-! ### Indentation -/

/-- Passes over spaces, comments and ends of lines; in block style a key may begin on a new line. -/
def skipBlanks (reader : Reader) : Nat → Reader
  | 0 => reader
  | turns + 1 =>
    let cursor := reader.cursor.skipSpaces.skipComment
    match cursor.break? with
    | none => { reader with cursor }
    | some (_,cursor) =>
      skipBlanks { reader with cursor, keyAllowed := reader.keyAllowed || !reader.inFlow } turns

/-- Ends the collections in block style that are deeper than a column. -/
def unwind (column : Int) (reader : Reader) : Reader :=
  if reader.inFlow then reader
  else
    let ended := reader.indents.takeWhile (column < ·)
    { reader with
      indents := reader.indents.drop ended.length
      tokens := reader.tokens ++ Array.replicate ended.length .blockEnd }

/-- Begins a collection in block style at a column, if it is deeper than all before; its token is put at a
    number among the tokens. -/
def deepen (column : Int) (number : Nat) (token : Token) (reader : Reader) : Reader :=
  if reader.inFlow || column ≤ reader.indent then reader
  else { reader with indents := column :: reader.indents }.insert number token

/-! ### Candidates for keys -/

/-- Drops the candidate on the current depth; a required one is missed. -/
def dropCandidate (reader : Reader) : Read Reader :=
  match reader.candidates.lookup reader.depth with
  | some candidate =>
    if candidate.required then .error .malformed
    else .ok { reader with candidates := reader.candidates.filter (·.1 ≠ reader.depth) }
  | none => .ok reader
/-- A candidate is too far away to become a key. -/
def isStale (reader : Reader) (candidate : Candidate) : Bool :=
  candidate.line ≠ reader.cursor.line || longestKey < reader.cursor.index - candidate.index
def dropStale (reader : Reader) : Read Reader :=
  if reader.candidates.any fun entry => reader.isStale entry.2 && entry.2.required then .error .malformed
  else .ok { reader with candidates := reader.candidates.filter fun entry => !reader.isStale entry.2 }
/-- Remembers the next token as a candidate, where a key may begin. -/
def saveCandidate (reader : Reader) : Read Reader :=
  if reader.keyAllowed then do
    let reader ← reader.dropCandidate
    let candidate : Candidate :=
      { token := reader.number, required := !reader.inFlow && reader.indent = reader.column,
        line := reader.cursor.line, column := reader.cursor.column, index := reader.cursor.index }
    return { reader with candidates := (reader.depth,candidate) :: reader.candidates }
  else .ok reader

/-! ### Tokens -/

def documentMark (token : Token) (reader : Reader) : Read Reader := do
  let reader ← (reader.unwind (-1)).dropCandidate
  return (reader.allowKey false).skip 3 |>.emit token
def directive (reader : Reader) : Read Reader := do
  let reader ← (reader.unwind (-1)).dropCandidate
  let (directive,cursor) ← Directive.scan reader.cursor
  return { reader with cursor }.allowKey false |>.emit (.directive directive)
/-- The beginning of a collection in flow style. -/
def openFlow (token : Token) (reader : Reader) : Read Reader := do
  let reader ← reader.saveCandidate
  return { reader with depth := reader.depth + 1 }.allowKey true |>.skip 1 |>.emit token
/-- The end of a collection in flow style. -/
def closeFlow (token : Token) (reader : Reader) : Read Reader := do
  let reader ← reader.dropCandidate
  if reader.inFlow then
    return { reader with depth := reader.depth - 1 }.allowKey false |>.skip 1 |>.emit token
  else throw .malformed
def comma (reader : Reader) : Read Reader := do
  let reader ← reader.dropCandidate
  return (reader.allowKey true).skip 1 |>.emit .comma
/-- The dash before an item in block style. -/
def entry (reader : Reader) : Read Reader := do
  if !reader.inFlow && !reader.keyAllowed then throw .malformed
  let reader ← (reader.deepen reader.column reader.number .blockSequence).dropCandidate
  return (reader.allowKey true).skip 1 |>.emit .entry
/-- The question mark before a key. -/
def explicitKey (reader : Reader) : Read Reader := do
  if !reader.inFlow && !reader.keyAllowed then throw .malformed
  let reader ← (reader.deepen reader.column reader.number .blockMapping).dropCandidate
  return (reader.allowKey !reader.inFlow).skip 1 |>.emit .key
/-- The colon before a value. -/
def value (reader : Reader) : Read Reader := do
  let reader ← match reader.candidates.lookup reader.depth with
    | some candidate =>
      let reader := { reader with candidates := reader.candidates.filter (·.1 ≠ reader.depth) }
      let reader := reader.insert candidate.token .key
      pure ((reader.deepen candidate.column candidate.token .blockMapping).allowKey false)
    | none => do
      if !reader.inFlow && !reader.keyAllowed then throw .malformed
      let reader ← (reader.deepen reader.column reader.number .blockMapping).dropCandidate
      pure (reader.allowKey !reader.inFlow)
  return reader.skip 1 |>.emit .value
/-- The name behind the sign of an alias or an anchor, with nothing attached to it. -/
def name (token : Text → Token) (reader : Reader) : Read Reader := do
  let reader ← reader.saveCandidate
  let (name,cursor) := reader.cursor.next.run isWordPart
  let apart := cursor.blankAt 0 || cursor.peek.any (lit "?:,]\x7d%@`").contains
  if name.isEmpty || !apart then throw .malformed
  return { reader with cursor }.allowKey false |>.emit (token name)
def tag (reader : Reader) : Read Reader := do
  let reader ← reader.saveCandidate
  let (tag,cursor) ← Read.ofOption (Tag.scan? reader.cursor)
  return { reader with cursor }.allowKey false |>.emit (.tag tag)
/-- A scalar in block style; on the line behind it a key may begin. -/
def block (folded : Bool) (reader : Reader) : Read Reader := do
  let reader ← reader.dropCandidate
  let (text,cursor) ← Read.ofOption (Block.scalar? folded reader.indent reader.cursor.next)
  return { reader with cursor }.allowKey true |>.emit (.scalar text false)
def quoted (double : Bool) (reader : Reader) : Read Reader := do
  let reader ← reader.saveCandidate
  let (text,cursor) ← Scalar.quoted double reader.cursor
  return { reader with cursor }.allowKey false |>.emit (.scalar text false)
/-- A plain scalar; on a new line behind it a key may begin. -/
def plain (reader : Reader) : Read Reader := do
  let reader ← reader.saveCandidate
  let scalar := Scalar.plain reader.inFlow (reader.indent + 1) reader.cursor
  return { reader with cursor := scalar.cursor }.allowKey scalar.newLine |>.emit (.scalar scalar.text true)

/-- A plain scalar may begin with the character. -/
def beginsPlain (reader : Reader) (c : CodePoint) : Bool :=
  if isSpacing c || isBreak c then false
  else if (lit "-?:,[]\x7b\x7d#&*!|>'\"%@`").contains c then
    !reader.cursor.blankAt 1 && (c.is '-' || (!reader.inFlow && (c.is '?' || c.is ':')))
  else true

/-- Reads the token that begins with the character at the place. -/
def token (reader : Reader) (c : CodePoint) : Read Reader :=
  let cursor := reader.cursor
  let apart := reader.inFlow || cursor.blankAt 1
  if cursor.column = 0 && c.is '%' then reader.directive
  else if cursor.column = 0 && cursor.atMark "---" then reader.documentMark .documentStart
  else if cursor.column = 0 && cursor.atMark "..." then reader.documentMark .documentEnd
  else if c.is '[' then reader.openFlow .flowSequence
  else if c.is '{' then reader.openFlow .flowMapping
  else if c.is ']' then reader.closeFlow .flowSequenceEnd
  else if c.is '}' then reader.closeFlow .flowMappingEnd
  else if c.is ',' then reader.comma
  else if c.is '-' && cursor.blankAt 1 then reader.entry
  else if c.is '?' && apart then reader.explicitKey
  else if c.is ':' && apart then reader.value
  else if c.is '*' then reader.name .reference
  else if c.is '&' then reader.name .anchor
  else if c.is '!' then reader.tag
  else if c.is '|' && !reader.inFlow then reader.block false
  else if c.is '>' && !reader.inFlow then reader.block true
  else if c.is '\'' then reader.quoted false
  else if c.is '"' then reader.quoted true
  else if reader.beginsPlain c then reader.plain
  else .error .malformed

/-- Reads the next token, and tells whether the document ended there; all collections in block style end with it. -/
def step (reader : Reader) : Read (Reader × Bool) := do
  let reader ← (reader.skipBlanks reader.cursor.turns).dropStale
  let reader := reader.unwind reader.column
  match reader.cursor.peek with
  | none => return (← (reader.unwind (-1)).dropCandidate,true)
  | some c => return (← reader.token c,false)
/-- Gives out the tokens that no mark of a key will be put before any more. -/
def release (reader : Reader) : Array Token × Reader :=
  let candidates := reader.candidates.filter fun entry => !reader.isStale entry.2
  let settled := candidates.foldl (fun least entry => min least entry.2.token) reader.number
  let count := settled - reader.released
  (reader.tokens.extract 0 count,
    { reader with released := settled, tokens := reader.tokens.extract count reader.tokens.size })

end Reader

end Token

/-- The tokens of a document as far as they could be settled, and the fault that follows them if they are not all. -/
structure Scan where
  tokens : List Token
  fault : Option Fault

namespace Scan

/-- Reads on to the end of the document; `tokens` were given out before. -/
def ofReader (tokens : Array Token) (reader : Token.Reader) : Nat → Scan
  | 0 => ⟨tokens.toList,some .malformed⟩
  | turns + 1 =>
    match reader.step with
    | .ok (reader,false) =>
      let (settled,reader) := reader.release
      ofReader (tokens ++ settled) reader turns
    | .ok (reader,true) => ⟨(tokens ++ reader.tokens).toList,none⟩
    | .error fault => ⟨tokens.toList,some fault⟩

/-- A character that may stand in a document. -/
def isAllowed (c : CodePoint) : Bool :=
  c.is '\t' || c.is '\n' || c.is '\r' || (0x20 ≤ c.val && c.val ≤ 0x7E) || c.val = 0x85 ||
    (0xA0 ≤ c.val && c.val ≤ 0xD7FF) || (0xE000 ≤ c.val && c.val ≤ 0xFFFD) || 0x10000 ≤ c.val

def pieceLength : Nat := 4096
/-- The beginning of the piece that a character lies in. The first two pieces are looked at together. -/
def pieceStart (index : Nat) : Nat :=
  let start := index / pieceLength * pieceLength
  if start ≤ pieceLength then 0 else start

/-- Reads the tokens of a document. The document is looked at piece by piece: a character that may not stand in it is
    a fault as soon as its piece is reached, and the faults before that piece come first. -/
def ofText (document : Text) : Scan :=
  let allowed := (document.takeWhile isAllowed).length
  let legible := if allowed = document.length then document else document.take (pieceStart allowed)
  let reader := Token.Reader.start legible
  let scan := ofReader #[] reader reader.cursor.turns
  if allowed = document.length then scan else { scan with fault := scan.fault.or (some .malformed) }

end Scan

end TapeArena.Yaml
