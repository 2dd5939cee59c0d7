import TapeArena.Proofs.Insertions

/-!
The course of a run, whatever its limits and its sink. A run comes to the head of its loop before every command and once
more at the end. The states there are those of the run without limits, one after another (`Run.heads_eq`), and from the
last of them the run comes to its ending, with the store that the completed commands make out of the first one
(`Run.endsBehind_resume`).
-/
namespace TapeArena
variable {σ ε : Type}

namespace Run

/-- The commands that a run completes from a state on, each with the state that it leads to. -/
def course (loaded : Loaded) (limits : Limits) (sink : Sink σ ε) : Nat → State → σ → List (Command × State)
  | 0, _, _ => []
  | allowed + 1, s, memory =>
    match s.next loaded with
    | none => []
    | some .output =>
      match limits.reached? s.store.writes with
      | some _ => []
      | none =>
        match sink.accept s.store.current memory with
        | (.ok (),memory) =>
          let behind := s.execute loaded .output
          (.output,behind) :: course loaded limits sink allowed behind memory
        | (.error _,_) => []
    | some command =>
      let behind := s.execute loaded command
      (command,behind) :: course loaded limits sink allowed behind memory

variable (loaded : Loaded) (limits : Limits) (sink : Sink σ ε) (allowed : Nat) (s : State) (memory : σ)

/-- The commands that a run completes, in order. -/
def completed : List Command := (course loaded limits sink allowed s memory).map Prod.fst
/-- The states at which a run comes to the head of its loop, in order. -/
def heads : List State := s :: (course loaded limits sink allowed s memory).map Prod.snd

end Run

variable {loaded : Loaded} {limits : Limits} {sink : Sink σ ε} {allowed : Nat} {s : State} {memory : σ}

namespace Run
open State

/-! ### One round of the loop -/

theorem course_stop {ending : Ending Empty} (stops : s.stop? loaded limits allowed = some ending) :
    course loaded limits sink allowed s memory = [] := by
  cases verdict_of stops with
  | ended ended => cases allowed <;> simp only [course,ended]
  | spent here => rfl
  | exceeds writing reached => simp only [course,writing,reached]
theorem course_other {command : Command} (here : s.next loaded = some command) (other : command ≠ .output) :
    course loaded limits sink (allowed + 1) s memory =
      (command,s.step loaded) :: course loaded limits sink allowed (s.step loaded) memory := by
  rw [step_of_next here]
  cases command with
  | output => exact absurd rfl other
  | _ => simp only [course,here]
theorem course_output (writing : s.next loaded = some .output) (within : limits.reached? s.store.writes = none) :
    course loaded limits sink (allowed + 1) s memory =
      match sink.accept s.store.current memory with
      | (.ok (),memory) => (.output,s.step loaded) :: course loaded limits sink allowed (s.step loaded) memory
      | (.error _,_) => [] := by
  rw [step_of_next writing]
  rcases handed : sink.accept s.store.current memory with ⟨verdict,after⟩
  cases verdict <;> simp only [course,writing,within,handed]

/-- How a run comes to its ending from the last head of its loop, where `left` more steps may be taken: the program was
    left, no step is allowed, a byte would exceed the cap, or the sink refuses a byte. -/
inductive EndsFrom (loaded : Loaded) (limits : Limits) (sink : Sink σ ε) (last : State) : Nat → Run σ ε → Prop
  | finished {left : Nat} {memory : σ} (ended : last.next loaded = none) :
    EndsFrom loaded limits sink last left ⟨.finished,last,memory⟩
  | spent {memory : σ} {command : Command} (here : last.next loaded = some command) :
    EndsFrom loaded limits sink last 0 ⟨.stepLimit limits.steps,last,memory⟩
  | exceeds {left cap : Nat} {memory : σ} (writing : last.next loaded = some .output)
    (reached : limits.reached? last.store.writes = some cap) :
    EndsFrom loaded limits sink last (left + 1) ⟨.outputLimit cap,last.refuse,memory⟩
  | refused {left : Nat} {memory heard : σ} {reason : ε} (writing : last.next loaded = some .output)
    (within : limits.reached? last.store.writes = none)
    (refuses : sink.accept last.store.current memory = (.error reason,heard)) :
    EndsFrom loaded limits sink last (left + 1) ⟨.refused reason,last.breakOff,heard⟩

theorem endsFrom_stop {ending : Ending Empty} (stops : s.stop? loaded limits allowed = some ending) :
    EndsFrom loaded limits sink s allowed (resume loaded limits sink allowed s memory) := by
  rw [resume_stop sink memory stops]
  cases verdict_of stops with
  | ended ended => exact .finished ended
  | spent here => exact .spent here
  | exceeds writing reached => exact .exceeds writing reached

namespace EndsFrom
variable {last : State} {left : Nat} {run : Run σ ε} (ends : EndsFrom loaded limits sink last left run)
include ends

/-- Nothing that happens at the last head moves the position. -/
theorem position : run.state.position = last.position := by
  cases ends <;> rfl
/-- A run that returns has left the program at the last head. -/
theorem next_of_ok {bytes : Bytes} (returned : Machine.answer run = .ok bytes) : last.next loaded = none := by
  cases ends with
  | finished ended => exact ended
  | _ => cases returned
/-- A run that returns leaves the state at the last head. -/
theorem state_of_ok {bytes : Bytes} (returned : Machine.answer run = .ok bytes) : run.state = last := by
  cases ends with
  | finished ended => rfl
  | _ => cases returned
/-- A run that is aborted has a command at the last head. -/
theorem next_of_error {halt : Halt ε} (aborted : Machine.answer run = .error halt) :
    ∃ command, last.next loaded = some command := by
  cases ends with
  | finished ended => cases aborted
  | @spent _ command here => exact ⟨command,here⟩
  | exceeds writing reached => exact ⟨.output,writing⟩
  | refused writing within refuses => exact ⟨.output,writing⟩
/-- A run that exceeds its limit on steps has taken all of them. -/
theorem left_eq_zero {limit : Int} (exceeded : Machine.answer run = .error (.fault (.stepLimit limit))) : left = 0 := by
  cases ends with
  | spent here => rfl
  | _ => cases exceeded

end EndsFrom

/-! ### The whole course -/

/-- A run ends behind some commands: each of them takes one of the allowed steps, and together they make the last store
    out of the first one. -/
structure EndsBehind (loaded : Loaded) (limits : Limits) (sink : Sink σ ε) (allowed : Nat) (s : State)
    (done : List Command) (run : Run σ ε) : Prop where
  within : done.length ≤ allowed
  goes : Goes loaded done.length s
  store : (after loaded done.length s).store = s.store.performAll loaded.input done
  ends : EndsFrom loaded limits sink (after loaded done.length s) (allowed - done.length) run

theorem EndsFrom.endsBehind {run : Run σ ε} (ends : EndsFrom loaded limits sink s allowed run) :
    EndsBehind loaded limits sink allowed s [] run :=
  ⟨Nat.zero_le allowed,nofun,rfl,ends⟩
theorem EndsBehind.cons {run : Run σ ε} {command : Command} {done : List Command}
    (here : s.next loaded = some command) (later : EndsBehind loaded limits sink allowed (s.step loaded) done run) :
    EndsBehind loaded limits sink (allowed + 1) s (command :: done) run where
  within := Nat.succ_le_succ later.within
  goes i lt := by
    cases i with
    | zero => exact ⟨command,here⟩
    | succ i => exact later.goes i (Nat.lt_of_succ_lt_succ lt)
  store := by
    have made : (s.step loaded).store = s.store.perform loaded.input command := by
      rw [step_of_next here]
      rfl
    exact later.store.trans (congrArg (Store.performAll loaded.input · done) made)
  ends := by
    rw [List.length_cons,Nat.add_sub_add_right]
    exact later.ends

theorem endsBehind_resume (loaded : Loaded) (limits : Limits) (sink : Sink σ ε) (allowed : Nat) (s : State)
    (memory : σ) :
    EndsBehind loaded limits sink allowed s (completed loaded limits sink allowed s memory)
      (resume loaded limits sink allowed s memory) := by
  induction allowed, s using run_induction loaded limits generalizing memory with
  | stops allowed s ending stops =>
    rw [completed,course_stop stops]
    exact (endsFrom_stop stops).endsBehind
  | goes allowed s goes ih =>
    cases verdict_of goes with
    | writes writing within =>
      rw [completed,course_output writing within,resume_output sink memory writing within]
      rcases handed : sink.accept s.store.current memory with ⟨verdict,heard⟩
      cases verdict with
      | ok => exact (ih heard).cons writing
      | error reason => exact (EndsFrom.refused writing within handed).endsBehind
    | other here other =>
      rw [completed,course_other here other,resume_other sink memory here other]
      exact (ih memory).cons here

/-- The states at the head of the loop are those of the run without limits, up to the one behind the last command that
    is completed. -/
theorem heads_eq (loaded : Loaded) (limits : Limits) (sink : Sink σ ε) (allowed : Nat) (s : State) (memory : σ) :
    heads loaded limits sink allowed s memory =
      (List.range ((completed loaded limits sink allowed s memory).length + 1)).map fun k => after loaded k s := by
  induction allowed, s using run_induction loaded limits generalizing memory with
  | stops allowed s ending stops =>
    rw [heads,completed,course_stop stops]
    rfl
  | goes allowed s goes ih =>
    have later (memory : σ) : (s :: heads loaded limits sink allowed (s.step loaded) memory) =
        (List.range ((completed loaded limits sink allowed (s.step loaded) memory).length + 2)).map
          fun k => after loaded k s := by
      rw [ih,List.range_succ_eq_map (n := _ + 1),List.map_cons,List.map_map]
      rfl
    cases verdict_of goes with
    | writes writing within =>
      rw [heads,completed,course_output writing within]
      rcases sink.accept s.store.current memory with ⟨verdict,heard⟩
      cases verdict with
      | ok => exact later heard
      | error reason => rfl
    | other here other =>
      rw [heads,completed,course_other here other]
      exact later memory

end Run

namespace Loaded
variable (loaded : Loaded) (size : Nat) (limits : Limits) (sink : Sink σ ε) (memory : σ)

/-- The commands that a run from the start completes, in order. -/
def completed : List Command := Run.completed loaded limits sink limits.steps (State.initial size) memory
/-- The states at which a run from the start comes to the head of its loop, in order. -/
def heads : List State := Run.heads loaded limits sink limits.steps (State.initial size) memory

theorem exists_of_mem_heads {s : State} (member : s ∈ loaded.heads size limits sink memory) :
    ∃ n, s = State.after loaded n (State.initial size) := by
  rw [heads,Run.heads_eq] at member
  obtain ⟨n,-,rfl⟩ := List.mem_map.mp member
  exact ⟨n,rfl⟩

end Loaded

namespace Machine
variable {program : Program} {input : Bytes} (loads : load program input = .ok loaded)
include loads

theorem size_input : loaded.input.size = input.length := by
  obtain ⟨jumps,-,rfl⟩ := load_eq_ok.mp loads
  exact List.size_toArray

/-- A call of an accepted program ends behind the commands that it completes. -/
theorem exists_course (machine : Machine) (sink : Sink σ ε) (memory : σ) :
    ∃ run : Run σ ε, (machine.run sink memory program input).1 = answer run ∧
      (machine.run sink memory program input).2.1.state = run.state ∧
      Run.EndsBehind loaded machine.limits sink machine.limits.steps (State.initial machine.size)
        (loaded.completed machine.size machine.limits sink memory) run := by
  rw [run_of_load machine sink memory loads]
  exact ⟨_,rfl,rfl,Run.endsBehind_resume loaded machine.limits sink machine.limits.steps _ memory⟩

end Machine

end TapeArena
