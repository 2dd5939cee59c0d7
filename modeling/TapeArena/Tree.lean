import TapeArena.Fault
import TapeArena.Machine.Execution

/-!
Programs read as nested commands. A program whose brackets match is a sequence of single commands and loops;
a loop holds a sequence of its own. A walk through the nested commands needs neither positions nor a jump
table: a loop is the meaning of its body, repeated while the cell is not zero. A command costs one step, a
loop one step on entry and one at every closing test, and a step is refused once the allowed number was
taken.
-/
namespace TapeArena

/-- A command that is no bracket, or a loop around nested commands. -/
inductive Tree
  | leaf (command : Command)
  | loop (body : List Tree)

namespace Tree

/-! ### Reading and writing -/

/-- Reads a program. `here` are the commands of the loop that is open, the last one first, `around` those of
    the loops around it, the innermost first. -/
def scan : Program → List Tree → List (List Tree) → Option (List Tree)
  | [], here, [] => some here.reverse
  | [], _, _ :: _ => none
  | .loopOpen :: rest, here, around => scan rest [] (here :: around)
  | .loopClose :: _, _, [] => none
  | .loopClose :: rest, here, outer :: around => scan rest (.loop here.reverse :: outer) around
  | command :: rest, here, around => scan rest (.leaf command :: here) around
/-- The nested commands of a program; none if a bracket has no partner. -/
def ofProgram? (program : Program) : Option (List Tree) := scan program [] []

mutual
/-- The commands of a tree in order, with the brackets of its loops. -/
def toProgram : Tree → Program
  | .leaf command => [command]
  | .loop body => .loopOpen :: (toPrograms body ++ [.loopClose])
def toPrograms : List Tree → Program
  | [] => []
  | tree :: rest => toProgram tree ++ toPrograms rest
end

/-! ### Walking -/

/-- Where a walk stands: the limit that stopped it, if one did, the store, and the steps taken. -/
structure Walk where
  stopped : Option Fault
  store : Store
  steps : Nat
  deriving DecidableEq

namespace Walk

def goesOn (store : Store) (steps : Nat) : Walk := ⟨none,store,steps⟩
/-- Goes on with another part, unless the walk was stopped. -/
def andThen (walk : Walk) (part : Store → Nat → Walk) : Walk :=
  match walk.stopped with
  | some _ => walk
  | none => part walk.store walk.steps
/-- Takes a step, unless the allowed number was taken. -/
def step (limits : Limits) (store : Store) (steps : Nat) (part : Nat → Walk) : Walk :=
  if limits.steps ≤ steps then ⟨some (.stepLimit (.ofNat limits.steps)),store,steps⟩ else part (steps + 1)
/-- The step of a single command; a byte beyond the cap stops the walk. -/
def command (limits : Limits) (input : Array UInt8) (command : Command) (store : Store) (steps : Nat) :
    Walk :=
  step limits store steps fun steps =>
    match if command = .output then limits.reached? store.writes else none with
    | some cap => ⟨some (.outputLimit (.ofNat cap)),store,steps⟩
    | none => goesOn (store.perform input command) steps
/-- Repeats the body of a loop while the cell is not zero. Every round takes one step at least, so no more
    rounds are possible than there are steps left. -/
def rounds (limits : Limits) (body : Store → Nat → Walk) : Nat → Store → Nat → Walk
  | 0, store, steps => ⟨some (.stepLimit (.ofNat limits.steps)),store,steps⟩
  | left + 1, store, steps =>
    (body store steps).andThen fun store steps =>
      step limits store steps fun steps =>
        if store.current = 0 then goesOn store steps else rounds limits body left store steps

end Walk

mutual
def walk (limits : Limits) (input : Array UInt8) : Tree → Store → Nat → Walk
  | .leaf command => fun store steps => Walk.command limits input command store steps
  | .loop body => fun store steps =>
    Walk.step limits store steps fun steps =>
      if store.current = 0 then Walk.goesOn store steps
      else Walk.rounds limits (walkAll limits input body) (limits.steps - steps) store steps
def walkAll (limits : Limits) (input : Array UInt8) : List Tree → Store → Nat → Walk
  | [] => fun store steps => Walk.goesOn store steps
  | tree :: rest => fun store steps =>
    (walk limits input tree store steps).andThen fun store steps => walkAll limits input rest store steps
end

/-- Walks through nested commands on a ring of `size` zero cells. -/
def run (size : Nat) (limits : Limits) (input : Bytes) (trees : List Tree) : Walk :=
  walkAll limits input.toArray trees (Store.initial size) 0

end Tree

end TapeArena
