import TapeArena.Fault
import TapeArena.Machine.Execution
import TapeArena.Source

/-!
A machine that is used again and again. Its size and limits are fixed; every accepted program starts
on a fresh ring, and the last state of that run can be read afterwards. A program that is rejected for
its brackets leaves the state of the run before.
-/
namespace TapeArena

/-- Why a call of the machine gave no output: a fault of the evaluation, or the reason of the sink. -/
inductive Halt (ε : Type)
  | fault (fault : Fault)
  | refused (reason : ε)
  deriving DecidableEq

/-- A machine and the last state of its latest accepted run. -/
structure Machine where
  size : Nat
  limits : Limits
  state : State

namespace Machine
variable {σ ε : Type}

def defaultSize : Nat := 30000
def defaultSteps : Nat := 1000000
def defaultOutput : Nat := 1000000

/-- A machine that has not run yet. -/
def new (size : Nat) (limits : Limits) : Machine := ⟨size,limits,State.initial size⟩

/-- What a call gives for the run that it made. -/
def answer (run : Run σ ε) : Except (Halt ε) Bytes :=
  match run.ending with
  | .finished => .ok run.state.store.output.toList
  | .stepLimit limit => .error (.fault (.stepLimit (.ofNat limit)))
  | .outputLimit limit => .error (.fault (.outputLimit (.ofNat limit)))
  | .refused reason => .error (.refused reason)

/-- A program with its jump table and the bytes that it will read. -/
def load (program : Program) (input : Bytes) : Except BracketFault Loaded :=
  (Jumps.ofProgram program).map fun jumps => ⟨program.toArray,jumps,input.toArray⟩

/-- Runs a program on an input. The machine that comes back holds the state that the run left, and the
    bytes that the sink was handed are exactly those that were written. -/
def run (machine : Machine) (sink : Sink σ ε) (memory : σ) (program : Program) (input : Bytes) :
    Except (Halt ε) Bytes × Machine × σ :=
  match load program input with
  | .error fault => (.error (.fault (Fault.ofBracket fault)),machine,memory)
  | .ok loaded =>
    let run := loaded.run machine.size machine.limits sink memory
    (answer run,{ machine with state := run.state },run.memory)

end Machine

/-- The output of a program on an input, on a new ring of the default size. -/
def evalBytes {σ ε : Type} (limits : Limits) (sink : Sink σ ε) (memory : σ) (program input : Source) :
    Except (Halt ε) Bytes × σ :=
  let (result,_,memory) :=
    (Machine.new Machine.defaultSize limits).run sink memory program.program input.feed
  (result,memory)

/-- The output of a program as text, one character for each byte; only the steps are limited. -/
def evalText (steps : Nat) (program input : Source) : Except Fault Text :=
  match (evalBytes ⟨steps,none⟩ Sink.silent () program input).1 with
  | .ok bytes => .ok (Text.ofBytes bytes)
  | .error (.fault fault) => .error fault
  | .error (.refused reason) => nomatch reason

end TapeArena
