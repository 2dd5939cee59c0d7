import TapeArena.Command

/-!
What a program works on: a ring of cells with a pointer, an input that is read from front to back, and an
output that grows. Brackets and comments leave it as it is.
-/
namespace TapeArena

/-- The ring of cells, the pointer into it, how many bytes were read, and the bytes that were written. -/
structure Store where
  cells : Array UInt8
  pointer : Nat
  reads : Nat
  output : Array UInt8
  deriving DecidableEq

namespace Store

/-- A ring of zero cells; nothing was read or written. -/
def initial (size : Nat) : Store := ⟨Array.replicate size 0,0,0,#[]⟩

def current (store : Store) : UInt8 := store.cells.getD store.pointer 0
/-- Another value in the cell under the pointer. -/
def put (store : Store) (value : UInt8) : Store :=
  { store with cells := store.cells.setIfInBounds store.pointer value }
/-- The pointer one cell to the right; behind the last cell comes the first one. -/
def right (store : Store) : Store := { store with pointer := (store.pointer + 1) % store.cells.size }
/-- The pointer one cell to the left; before the first cell comes the last one. -/
def left (store : Store) : Store :=
  { store with pointer := (store.pointer + (store.cells.size - 1)) % store.cells.size }
/-- The current cell appended to the output. -/
def write (store : Store) : Store := { store with output := store.output.push store.current }
/-- The next byte of the input in the current cell; past the end a zero is read, and nothing is counted. -/
def read (input : Array UInt8) (store : Store) : Store :=
  match input[store.reads]? with
  | some byte => { store.put byte with reads := store.reads + 1 }
  | none => store.put 0
/-- The number of bytes written so far. -/
def writes (store : Store) : Nat := store.output.size

def perform (input : Array UInt8) (store : Store) : Command → Store
  | .right => store.right
  | .left => store.left
  | .increment => store.put (store.current + 1)
  | .decrement => store.put (store.current - 1)
  | .output => store.write
  | .input => store.read input
  | .loopOpen | .loopClose | .comment => store

end Store

end TapeArena
