import TapeArena.Yaml.Cursor
import TapeArena.Yaml.Fault

/-!
Scalars of a document in their flow styles: plain, in single quotes and in double quotes. A scalar may go
over several lines; a single end of a line counts as a space, further ones stay.
-/
namespace TapeArena.Yaml.Scalar

/-- The text between two parts of a scalar on different lines, given its ends of lines. -/
def fold (first : CodePoint) (further : Text) : Text :=
  if !first.is '\n' then first :: further else if further.isEmpty then lit " " else further

/-! ### Plain scalars -/

/-- The characters that begin or end a collection in flow style, and the comma between its items. -/
def isFlowMark (c : CodePoint) : Bool := (lit ",[]\x7b\x7d").contains c

/-- A plain scalar ends at the character before `rest`. Inside a collection in flow style, marks of the
    collection end it as well. -/
def endsPlain (inFlow : Bool) (c : CodePoint) (rest : Text) : Bool :=
  isSpacing c || isBreak c ||
    (c.is ':' && (match rest.head? with
      | none => true
      | some d => isSpacing d || isBreak d || (inFlow && isFlowMark d))) ||
    (inFlow && (c.is '?' || isFlowMark c))

/-- The number of characters up to the end of a part of a plain scalar. -/
def plainLength (inFlow : Bool) : Text → Nat
  | [] => 0
  | c :: rest => if endsPlain inFlow c rest then 0 else plainLength inFlow rest + 1

/-- What stands between two parts of a plain scalar. -/
structure Gap where
  text : Text
  newLine : Bool
  cursor : Cursor

/-- Spaces and ends of lines behind the first end of a line; a mark between documents ends the scalar, then
    there is no text. -/
def plainBreaks (first : CodePoint) (further : Text) (cursor : Cursor) : Nat → Gap
  | 0 => ⟨[],true,cursor⟩
  | turns + 1 =>
    if cursor.atDocumentMark then ⟨[],true,cursor⟩
    else
      let (_,cursor) := cursor.run (·.is ' ')
      match cursor.break? with
      | none => ⟨fold first further,true,cursor⟩
      | some (c,after) => plainBreaks first (further ++ [c]) after turns

/-- What follows a part of a plain scalar. -/
def plainGap (cursor : Cursor) : Gap :=
  let (spaces,cursor) := cursor.run (·.is ' ')
  match cursor.break? with
  | none => ⟨spaces,false,cursor⟩
  | some (first,after) => plainBreaks first [] after after.turns

/-- A plain scalar: its text, whether a line ended behind its last part, and the place behind it. -/
structure Plain where
  text : Text
  newLine : Bool
  cursor : Cursor

/-- Reads the parts of a plain scalar. Further parts stand right of column `indent` or on it, unless the
    scalar stands in a collection in flow style. -/
def plainParts (inFlow : Bool) (indent : Int) (cursor : Cursor) : Nat → Plain
  | 0 => ⟨[],false,cursor⟩
  | turns + 1 =>
    let length := plainLength inFlow cursor.rest
    let part := cursor.rest.take length
    let gap := plainGap (cursor.skip length)
    let inside := inFlow || indent ≤ gap.cursor.column
    let ended := gap.text.isEmpty || gap.cursor.peek.any (·.is '#') || !inside ||
      plainLength inFlow gap.cursor.rest = 0
    if ended then ⟨part,gap.newLine,gap.cursor⟩
    else
      let more := plainParts inFlow indent gap.cursor turns
      { more with text := part ++ gap.text ++ more.text }

def plain (inFlow : Bool) (indent : Int) (cursor : Cursor) : Plain :=
  plainParts inFlow indent cursor cursor.turns

/-! ### Quoted scalars -/

/-- Ends of lines between two parts of a quoted scalar; a mark between documents is not allowed here. -/
def quotedBreaks (cursor : Cursor) : Nat → Read (Text × Cursor)
  | 0 => .error .malformed
  | turns + 1 =>
    if cursor.atDocumentMark then .error .malformed
    else
      let (_,cursor) := cursor.run isSpacing
      match cursor.break? with
      | none => .ok ([],cursor)
      | some (c,after) => (quotedBreaks after turns).map fun (further,cursor) => (c :: further,cursor)

/-- The escapes of a scalar in double quotes that stand for one character. -/
def escapes : List (Char × Char) :=
  [('0','\x00'),('a','\x07'),('b','\x08'),('t','\t'),('\t','\t'),('n','\n'),('v','\x0B'),
   ('f','\x0C'),('r','\r'),('e','\x1B'),(' ',' '),('"','"'),('\\','\\'),('/','/'),
   ('N','\u0085'),('_','\u00A0'),('L','\u2028'),('P','\u2029')]
/-- The escapes that are followed by a number, and how many hexadecimal digits it has. -/
def numericEscapes : List (Char × Nat) := [('x',2),('u',4),('U',8)]

/-- Reads the number of an escape, and the character that it stands for. -/
def numericEscape (width : Nat) (cursor : Cursor) : Read (Text × Cursor) := do
  let digits ← Read.ofOption ((cursor.rest.take width).mapM hexDigit?)
  if digits.length < width then throw .malformed
  match CodePoint.ofNat? (digits.foldl (fun n digit => 16 * n + digit) 0) with
  | some meant => return ([meant],cursor.skip width)
  | none => throw .noCharacter

/-- Reads what stands behind a backslash. -/
def escape (cursor : Cursor) : Read (Text × Cursor) := do
  let c ← Read.ofOption cursor.peek
  match c.lookup? escapes, numericEscapes.find? fun (mark,_) => c.is mark with
  | some meant, _ => return ([meant],cursor.next)
  | none, some (_,width) => numericEscape width cursor.next
  | none, none =>
    let (_,after) ← Read.ofOption cursor.break?
    quotedBreaks after after.turns

/-- Reads the characters of a quoted scalar and the quote that closes it. -/
def quotedParts (double : Bool) (cursor : Cursor) : Nat → Read (Text × Cursor)
  | 0 => .error .malformed
  | turns + 1 => do
    let c ← Read.ofOption cursor.peek
    if c.is (if double then '"' else '\'') then
      if !double && (cursor.peek 1).any (·.is '\'') then go turns [c] (cursor.skip 2)
      else return ([],cursor.next)
    else if double && c.is '\\' then
      let (meant,after) ← escape cursor.next
      go turns meant after
    else if isSpacing c || isBreak c then
      let (spaces,after) := cursor.run isSpacing
      match after.break? with
      | none => go turns spaces after
      | some (first,after) =>
        let (further,after) ← quotedBreaks after after.turns
        go turns (fold first further) after
    else go turns [c] cursor.next
where
  /-- Reads on behind a part. -/
  go (turns : Nat) (part : Text) (after : Cursor) : Read (Text × Cursor) :=
    (quotedParts double after turns).map fun (text,cursor) => (part ++ text,cursor)

def quoted (double : Bool) (cursor : Cursor) : Read (Text × Cursor) :=
  quotedParts double cursor.next cursor.turns

end TapeArena.Yaml.Scalar
