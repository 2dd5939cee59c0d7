import TapeArena.Command

/-!
Where the two brackets of a loop find each other. The table has one slot for each position of the
program: a bracket's slot holds the position of its partner, any other slot is empty. A program with a
bracket that has no partner has no table; the fault names the bracket that the scan stopped at.
-/
namespace TapeArena

/-- A bracket without a partner: which one, and where. -/
inductive BracketFault
  | unmatchedOpen (position : Nat)
  | unmatchedClose (position : Nat)
  deriving DecidableEq, Repr

/-- The partner of every bracket; one slot for each position. -/
abbrev Jumps := Array (Option Nat)

namespace Jumps

/-- Reads the program from position `i` on. `pending` are the loops that are still open, the last opened
    one first; a closing bracket takes that one as its partner. -/
def scan : Program → Nat → List Nat → Jumps → Except BracketFault Jumps
  | [], _, [], jumps => .ok jumps
  | [], _, last :: _, _ => .error (.unmatchedOpen last)
  | .loopOpen :: rest, i, pending, jumps => scan rest (i + 1) (i :: pending) jumps
  | .loopClose :: _, i, [], _ => .error (.unmatchedClose i)
  | .loopClose :: rest, i, start :: pending, jumps =>
    scan rest (i + 1) pending ((jumps.setIfInBounds start (some i)).setIfInBounds i (some start))
  | _ :: rest, i, pending, jumps => scan rest (i + 1) pending jumps

/-- The jump table of a program, or the bracket that has no partner. -/
def ofProgram (program : Program) : Except BracketFault Jumps :=
  scan program 0 [] (Array.replicate program.length none)

/-- The position that a jump from position `i` leads to; a slot without partner leads nowhere. -/
def target (jumps : Jumps) (i : Nat) : Nat := (jumps.getD i none).getD i

/-- A command that is no bracket leaves the table alone. -/
theorem scan_leaf {command : Command} (notOpen : command ≠ .loopOpen)
    (notClose : command ≠ .loopClose) (rest : Program) (i : Nat) (pending : List Nat) (jumps : Jumps) :
    scan (command :: rest) i pending jumps = scan rest (i + 1) pending jumps := by
  cases command with
  | loopOpen => exact absurd rfl notOpen
  | loopClose => exact absurd rfl notClose
  | _ => rfl

/-- The number that stands for an empty slot when a table is written out. -/
def noJump : Int := -1
def toInts (jumps : Jumps) : List Int := jumps.toList.map fun slot => (slot.map Int.ofNat).getD noJump

end Jumps

/-- Every bracket of the program has a partner. -/
def Program.Matched (program : Program) : Prop := ∃ jumps, Jumps.ofProgram program = .ok jumps

end TapeArena
