import TapeArena.Machine.State

/-!
Runs under limits. A step is refused once the allowed number was taken, a byte is refused once the output
holds as many bytes as the cap allows, and a sink may refuse a byte that it was handed. A byte is checked
against the cap first, then appended, then handed to the sink.
-/
namespace TapeArena

/-- Receives every byte as soon as it is written; `σ` is what it remembers, `ε` why it refuses one. -/
structure Sink (σ ε : Type) where
  accept : UInt8 → σ → Except ε Unit × σ

/-- The sink that takes every byte and remembers nothing. -/
def Sink.silent : Sink Unit Empty := ⟨fun _ memory => (.ok (),memory)⟩

/-- How many steps a run may take and how many bytes it may write. -/
structure Limits where
  steps : Nat
  output : Option Nat
  deriving DecidableEq

/-- The cap on the output, if the bytes that were written have reached it. -/
def Limits.reached? (limits : Limits) (written : Nat) : Option Nat := limits.output.filter (· ≤ written)

/-- How a run ended: past the last command, at a limit, or at a byte that the sink refused. -/
inductive Ending (ε : Type)
  | finished
  | stepLimit (limit : Nat)
  | outputLimit (limit : Nat)
  | refused (reason : ε)
  deriving DecidableEq

/-- The ending of a run, its last state, and what the sink remembers. -/
structure Run (σ ε : Type) where
  ending : Ending ε
  state : State
  memory : σ

namespace Run
variable {σ ε : Type}

/-- Runs on from a state while `allowed` more steps may be taken. -/
def resume (loaded : Loaded) (limits : Limits) (sink : Sink σ ε) : Nat → State → σ → Run σ ε
  | 0, s, memory =>
    match s.next loaded with
    | none => ⟨.finished,s,memory⟩
    | some _ => ⟨.stepLimit limits.steps,s,memory⟩
  | allowed + 1, s, memory =>
    match s.next loaded with
    | none => ⟨.finished,s,memory⟩
    | some .output =>
      match limits.reached? s.store.writes with
      | some cap => ⟨.outputLimit cap,s.refuse,memory⟩
      | none =>
        match sink.accept s.store.current memory with
        | (.ok (),memory) => resume loaded limits sink allowed (s.execute loaded .output) memory
        | (.error reason,memory) => ⟨.refused reason,s.breakOff,memory⟩
    | some command => resume loaded limits sink allowed (s.execute loaded command) memory

end Run

/-- Runs a loaded program on a ring of `size` zero cells. -/
def Loaded.run {σ ε : Type} (loaded : Loaded) (size : Nat) (limits : Limits) (sink : Sink σ ε)
    (memory : σ) : Run σ ε :=
  Run.resume loaded limits sink limits.steps (State.initial size) memory

end TapeArena
