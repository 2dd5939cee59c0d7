import TapeArena.Jumps
import TapeArena.Machine.Store

/-!
The machine without limits. A state is plain data; `step` performs the command at the current position and
moves on, and is total on every state. A run without limits is the iteration of `step` until the position
has left the program.
-/
namespace TapeArena

/-- What a run works through: the commands, their jump table, and the bytes to be read. -/
structure Loaded where
  code : Array Command
  jumps : Jumps
  input : Array UInt8

/-- What a run changes: the store, the position in the program, and the number of steps begun. -/
structure State where
  store : Store
  position : Nat
  steps : Nat
  deriving DecidableEq

namespace State

def initial (size : Nat) : State := ⟨Store.initial size,0,0⟩

/-- The command at the current position; none once the program is left. -/
def next (loaded : Loaded) (s : State) : Option Command := loaded.code[s.position]?
/-- The position from which a command moves on: that of the partner for an opening bracket on a zero cell and
    a closing bracket on any other cell. -/
def landing (loaded : Loaded) (s : State) : Command → Nat
  | .loopOpen => if s.store.current = 0 then loaded.jumps.target s.position else s.position
  | .loopClose => if s.store.current = 0 then s.position else loaded.jumps.target s.position
  | _ => s.position

/-- One step of the machine on a given command. -/
def execute (loaded : Loaded) (s : State) (command : Command) : State :=
  let position := s.landing loaded command + 1
  { store := s.store.perform loaded.input command, position, steps := s.steps + 1 }
/-- One step of the machine; a state that has left the program stays as it is. -/
def step (loaded : Loaded) (s : State) : State :=
  match s.next loaded with
  | some command => s.execute loaded command
  | none => s
/-- The state after a number of steps without limits. -/
def after (loaded : Loaded) : Nat → State → State
  | 0, s => s
  | n + 1, s => after loaded n (s.step loaded)

/-- A step was begun and refused before it changed anything. -/
def refuse (s : State) : State := { s with steps := s.steps + 1 }
/-- A byte was written, and the step was broken off before the position moved on. -/
def breakOff (s : State) : State := { s with store := s.store.write, steps := s.steps + 1 }

end State

end TapeArena
