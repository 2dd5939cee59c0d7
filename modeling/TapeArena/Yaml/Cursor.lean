import TapeArena.Text.Basic

/-!
A place in a document: what is left of it, and the line, the column and the index of the place. Columns
count characters from the last end of a line; a byte order mark takes no column. The length of the whole document goes
along with a place, so that what is left need not be counted.
-/
namespace TapeArena.Yaml

def isBreak (c : CodePoint) : Bool := c.is '\n' || c.val = 0x85 || c.val = 0x2028 || c.val = 0x2029
/-- A space or a tab. -/
def isSpacing (c : CodePoint) : Bool := c.is ' ' || c.is '\t'
/-- A Latin digit. -/
def isDigit (c : CodePoint) : Bool := 0x30 ≤ c.val && c.val ≤ 0x39
/-- A Latin letter, a Latin digit, a dash or a low line, as names in a document consist of. -/
def isWordPart (c : CodePoint) : Bool :=
  isDigit c || (0x41 ≤ c.val && c.val ≤ 0x5A) || (0x61 ≤ c.val && c.val ≤ 0x7A) ||
    c.is '-' || c.is '_'
def hexDigit? (c : CodePoint) : Option Nat :=
  if 0x30 ≤ c.val ∧ c.val ≤ 0x39 then some (c.val - 0x30)
  else if 0x41 ≤ c.val ∧ c.val ≤ 0x46 then some (c.val - 0x37)
  else if 0x61 ≤ c.val ∧ c.val ≤ 0x66 then some (c.val - 0x57)
  else none

/-- A place in a document. -/
structure Cursor where
  rest : Text
  line : Nat
  column : Nat
  index : Nat
  length : Nat

namespace Cursor

/-- The beginning of a document; a byte order mark there is passed over. -/
def start (document : Text) : Cursor :=
  let marked := document.head?.any CodePoint.isByteOrderMark
  { rest := if marked then document.drop 1 else document, line := 0, column := 0, index := if marked then 1 else 0,
    length := document.length }
/-- The character at some distance from the place. -/
def peek (cursor : Cursor) (distance : Nat := 0) : Option CodePoint := cursor.rest[distance]?
def next (cursor : Cursor) : Cursor :=
  match cursor.rest with
  | [] => cursor
  | c :: rest =>
    if isBreak c then { cursor with rest, line := cursor.line + 1, column := 0, index := cursor.index + 1 }
    else
      let column := if c.isByteOrderMark then cursor.column else cursor.column + 1
      { cursor with rest, column, index := cursor.index + 1 }
/-- The place behind a number of characters. -/
def skip : Nat → Cursor → Cursor
  | 0, cursor => cursor
  | n + 1, cursor => skip n cursor.next
/-- One more turn than there are characters left; every turn of a scanner takes one character at least. -/
def turns (cursor : Cursor) : Nat := cursor.length - cursor.index + 1
/-- A run of characters of a class, and the place behind it. -/
def run (keep : CodePoint → Bool) (cursor : Cursor) : Text × Cursor :=
  let taken := cursor.rest.takeWhile keep
  (taken,cursor.skip taken.length)
def skipSpaces (cursor : Cursor) : Cursor := (cursor.run (·.is ' ')).2
/-- The place behind a character, if it is the next one. -/
def expect? (char : Char) (cursor : Cursor) : Option Cursor :=
  if cursor.peek.any (·.is char) then some cursor.next else none

/-- At some distance there is a space, the end of a line or the end of the document. -/
def gapAt (cursor : Cursor) (distance : Nat) : Bool :=
  match cursor.peek distance with
  | none => true
  | some c => c.is ' ' || isBreak c
/-- At some distance there is a blank, the end of a line or the end of the document. -/
def blankAt (cursor : Cursor) (distance : Nat) : Bool :=
  cursor.gapAt distance || (cursor.peek distance).any isSpacing

/-- A mark of three characters stands at the place, with nothing attached to it. -/
def atMark (cursor : Cursor) (mark : String) : Bool :=
  (lit mark).isPrefixOf cursor.rest && cursor.blankAt 3
/-- A mark between documents stands at the place. -/
def atDocumentMark (cursor : Cursor) : Bool := cursor.atMark "---" || cursor.atMark "..."

/-- The end of the line at the place, as the text that it counts for, and the place behind it. -/
def break? (cursor : Cursor) : Option (CodePoint × Cursor) :=
  match cursor.peek with
  | some c =>
    if c.val = 0x2028 ∨ c.val = 0x2029 then some (c,cursor.next)
    else if isBreak c then some (.ofChar '\n',cursor.next) else none
  | none => none
/-- The place behind a comment, if there is one. -/
def skipComment (cursor : Cursor) : Cursor :=
  if cursor.peek.any (·.is '#') then (cursor.run fun c => !isBreak c).2 else cursor
/-- The place behind the line, if nothing but a comment is left of it. -/
def lineEnd? (cursor : Cursor) : Option Cursor :=
  let cursor := cursor.skipSpaces.skipComment
  match cursor.peek with
  | none => some cursor
  | some _ => cursor.break?.map (·.2)

end Cursor

end TapeArena.Yaml
