import TapeArena.Yaml.Cursor
import TapeArena.Yaml.Fault

/-!
Tags, which say what a part of a document is, and directives, which stand before a document. A tag begins with
a handle, which stands for the beginning of the tag, or is written in full between angle brackets.
-/
namespace TapeArena.Yaml

/-- A tag as it is written. -/
structure Tag where
  handle : Option Text
  suffix : Text
  deriving DecidableEq

/-- A directive: the version of the format, what a handle stands for, or any other one. -/
inductive Directive
  | version (major : Nat)
  | handle (name start : Text)
  | other
  deriving DecidableEq

namespace Tag

/-- Characters in a tag besides those of names; the percent sign begins an escape. -/
def isPart (c : CodePoint) : Bool := isWordPart c || (lit ";/?:@&=+$,.!~*'()[]").contains c

/-- The bytes of the escapes at the place, each a percent sign and two hexadecimal digits. -/
def escapes? (cursor : Cursor) : Nat → Option (List UInt8 × Cursor)
  | 0 => none
  | turns + 1 =>
    match cursor.expect? '%' with
    | none => some ([],cursor)
    | some cursor => do
      let high ← cursor.peek.bind hexDigit?
      let low ← (cursor.peek 1).bind hexDigit?
      let (more,cursor) ← escapes? (cursor.skip 2) turns
      return (UInt8.ofNat (16 * high + low) :: more,cursor)
/-- The text that bytes stand for. -/
def decode? (bytes : List UInt8) : Option Text := (String.fromUTF8? ⟨bytes.toArray⟩).map lit
/-- The text of the tag at the place, its escapes replaced. -/
def text? (cursor : Cursor) : Nat → Option (Text × Cursor)
  | 0 => none
  | turns + 1 =>
    let (run,behind) := cursor.run isPart
    if behind.peek.any (·.is '%') then do
      let (bytes,behind) ← escapes? behind behind.turns
      let escaped ← decode? bytes
      let (more,behind) ← text? behind turns
      return (run ++ escaped ++ more,behind)
    else some (run,behind)
/-- The text of a tag, which is not empty. -/
def suffix? (cursor : Cursor) : Option (Text × Cursor) := do
  let (text,cursor) ← text? cursor cursor.turns
  if text.isEmpty then none else return (text,cursor)

/-- A handle: an exclamation mark, or a name between two of them. -/
def handle? (cursor : Cursor) : Option (Text × Cursor) := do
  let inner ← cursor.expect? '!'
  if inner.peek.any (·.is ' ') then return (lit "!",inner)
  let (name,inner) := inner.run isWordPart
  let inner ← inner.expect? '!'
  return (lit "!" ++ name ++ lit "!",inner)

/-- The tag at the place. -/
def scan? (cursor : Cursor) : Option (Tag × Cursor) := do
  let inner := cursor.next
  let (tag,after) ←
    if inner.peek.any (·.is '<') then do
      let (suffix,after) ← suffix? inner.next
      pure (⟨none,suffix⟩,← after.expect? '>')
    else if inner.blankAt 0 then some (⟨none,lit "!"⟩,inner)
    else do
      let ahead := inner.rest.takeWhile fun c => !(c.is ' ' || isBreak c)
      let (handle,after) ← if ahead.any (·.is '!') then handle? cursor else some (lit "!",inner)
      let (suffix,after) ← suffix? after
      pure (⟨some handle,suffix⟩,after)
  if after.gapAt 0 then return (tag,after) else none

/-- The handles that every document knows. -/
def standardHandles : List (Text × Text) := [(lit "!",lit "!"),(lit "!!",lit "tag:yaml.org,2002:")]
/-- A tag in full, given what its handles stand for. -/
def full? (handles : List (Text × Text)) (tag : Tag) : Option Text :=
  match tag.handle with
  | none => some tag.suffix
  | some handle => (handles.find? fun (name,_) => name = handle).map fun (_,start) => start ++ tag.suffix

end Tag

namespace Directive

/-- A number at the place, of a limited number of digits. -/
def number (cursor : Cursor) : Read (Nat × Cursor) :=
  let (digits,after) := cursor.run isDigit
  if digits.isEmpty then .error .malformed
  else if Decimal.mostDigits < digits.length then .error (.tooManyDigits digits.length)
  else .ok (digits.foldl (fun n digit => 10 * n + (digit.val - 0x30)) 0,after)
/-- The version behind its name. -/
def scanVersion (cursor : Cursor) : Read (Directive × Cursor) := do
  let (major,cursor) ← number cursor.skipSpaces
  let (_,cursor) ← number (← Read.ofOption (cursor.expect? '.'))
  if cursor.gapAt 0 then return (.version major,cursor) else throw .malformed
/-- A handle and what it stands for, behind their name. -/
def handleOf? (cursor : Cursor) : Option (Directive × Cursor) := do
  let (name,cursor) ← Tag.handle? cursor.skipSpaces
  if !cursor.peek.any (·.is ' ') then none
  let (start,cursor) ← Tag.suffix? cursor.skipSpaces
  if cursor.gapAt 0 then return (.handle name start,cursor) else none

/-- The directive at the place, with its whole line. -/
def scan (cursor : Cursor) : Read (Directive × Cursor) := do
  let (name,cursor) := cursor.next.run isWordPart
  if name.isEmpty || !cursor.gapAt 0 then throw .malformed
  let (directive,cursor) ←
    if name = lit "YAML" then scanVersion cursor
    else if name = lit "TAG" then Read.ofOption (handleOf? cursor)
    else pure (.other,(cursor.run fun c => !isBreak c).2)
  return (directive,← Read.ofOption cursor.lineEnd?)

end Directive

end TapeArena.Yaml
