import TapeArena.Yaml.Scalar

/-!
Scalars in block style: the lines below a header that are indented far enough. In a literal scalar every end
of a line stays; in a folded one a single end of a line between lines of text counts as a space. The header
may give the indentation, and tells what becomes of the ends of lines behind the last line.
-/
namespace TapeArena.Yaml.Block

/-- What becomes of the ends of lines behind the last line: one stays, none stays, or all stay. -/
inductive Chomping
  | clip
  | strip
  | keep
  deriving DecidableEq

/-! ### The header -/

/-- The sign for the ends of lines at the place. -/
def sign? (cursor : Cursor) : Option (Chomping × Cursor) :=
  match cursor.peek with
  | some c => if c.is '+' then some (.keep,cursor.next) else if c.is '-' then some (.strip,cursor.next) else none
  | none => none
/-- The digit for the indentation at the place. -/
def width? (cursor : Cursor) : Option (Nat × Cursor) :=
  match cursor.peek with
  | some c => if 0x30 ≤ c.val ∧ c.val ≤ 0x39 then some (c.val - 0x30,cursor.next) else none
  | none => none
/-- The sign and the digit in either order; both may be left out. -/
def marks (cursor : Cursor) : Chomping × Option Nat × Cursor :=
  match sign? cursor, width? cursor with
  | some (chomping,after), _ =>
    match width? after with
    | some (width,after) => (chomping,some width,after)
    | none => (chomping,none,after)
  | none, some (width,after) =>
    match sign? after with
    | some (chomping,after) => (chomping,some width,after)
    | none => (.clip,some width,after)
  | none, none => (.clip,none,cursor)
/-- The header up to the end of its line; an indentation of zero is not allowed. -/
def header? (cursor : Cursor) : Option (Chomping × Option Nat × Cursor) :=
  let (chomping,width,after) := marks cursor
  if width = some 0 || !after.gapAt 0 then none else after.lineEnd?.map (chomping,width,·)

/-! ### The lines -/

/-- The ends of lines up to the next line that is not empty, whose indentation is passed over. -/
def breaks (indent : Nat) (cursor : Cursor) : Nat → Text × Cursor
  | 0 => ([],cursor)
  | turns + 1 =>
    let (spaces,_) := cursor.run (·.is ' ')
    let cursor := cursor.skip (min spaces.length (indent - cursor.column))
    match cursor.break? with
    | none => ([],cursor)
    | some (c,after) =>
      let (further,cursor) := breaks indent after turns
      (c :: further,cursor)
/-- The ends of lines up to the next line that is not empty, and the deepest indentation among all lines up to
    that one. -/
def indentation (deepest : Nat) (cursor : Cursor) : Nat → Text × Nat × Cursor
  | 0 => ([],deepest,cursor)
  | turns + 1 =>
    let cursor := cursor.skipSpaces
    let deepest := max deepest cursor.column
    match cursor.break? with
    | none => ([],deepest,cursor)
    | some (c,after) =>
      let (further,deepest,cursor) := indentation deepest after turns
      (c :: further,deepest,cursor)

/-- Lines that were read: their text, the end of the last line, the ends of lines behind it, and the place
    behind them. -/
structure Lines where
  text : Text
  last : Text
  further : Text
  cursor : Cursor

/-- A line of the scalar stands at the place. -/
def atLine (indent : Nat) (cursor : Cursor) : Bool := cursor.column = indent && cursor.peek.isSome
/-- What stands for the end of a line between two lines; lines that begin with a blank are not folded. -/
def between (folded indented : Bool) (last further : Text) : Text :=
  if folded && !indented && last = lit "\n" then if further.isEmpty then lit " " else [] else last
/-- Reads the lines from the one at the place on. -/
def lines (folded : Bool) (indent : Nat) (cursor : Cursor) : Nat → Lines
  | 0 => ⟨[],[],[],cursor⟩
  | turns + 1 =>
    let (line,behind) := cursor.run fun c => !isBreak c
    let (last,behind) := match behind.break? with
      | some (c,after) => ([c],after)
      | none => ([],behind)
    let (further,behind) := breaks indent behind behind.turns
    if atLine indent behind then
      let indented := cursor.peek.any isSpacing || behind.peek.any isSpacing
      let more := lines folded indent behind turns
      { more with text := line ++ between folded indented last further ++ further ++ more.text }
    else ⟨line,last,further,behind⟩

/-- The ends of lines that stay behind the last line. -/
def Chomping.tail : Chomping → Text → Text → Text
  | .clip, last, _ => last
  | .strip, _, _ => []
  | .keep, last, further => last ++ further

/-- Reads the scalar whose header begins at the place; its lines stand right of column `outer`. -/
def scalar? (folded : Bool) (outer : Int) (cursor : Cursor) : Option (Text × Cursor) := do
  let (chomping,width,cursor) ← header? cursor
  let least := (max 1 (outer + 1)).toNat
  let (first,indent,cursor) := match width with
    | some width =>
      let indent := least + width - 1
      let (first,cursor) := breaks indent cursor cursor.turns
      (first,indent,cursor)
    | none =>
      let (first,deepest,cursor) := indentation 0 cursor cursor.turns
      (first,max least deepest,cursor)
  if atLine indent cursor then
    let read := lines folded indent cursor cursor.turns
    return (first ++ read.text ++ chomping.tail read.last read.further,read.cursor)
  else return (chomping.tail [] first,cursor)

end TapeArena.Yaml.Block
