import Mathlib.Data.Nat.Find
import TapeArena.Machine
import TapeArena.Proofs.Unlimited

/-!
How limits cut a run. Whether a run stops at a state is told by the command that comes next, by the number
of bytes that were written and by the number of steps that are still allowed (`stop?`). A run with a sink
that takes every byte is the run without limits up to the first state where it stops (`StopsAt.resume_eq`),
and there is such a state (`exists_stopsAt`).
-/
namespace TapeArena
variable {loaded : Loaded} {limits : Limits} {s : State}

theorem Limits.reached?_eq_some {written cap : Nat} :
    limits.reached? written = some cap ↔ limits.output = some cap ∧ cap ≤ written := by
  simp [reached?,Option.filter_eq_some_iff]
theorem Limits.reached?_eq_none {written : Nat} :
    limits.reached? written = none ↔ ∀ cap, limits.output = some cap → written < cap := by
  simp [reached?,Option.filter_eq_none_iff]

/-- An ending that no sink brought about, as an ending of a run with another sink. -/
def Ending.lift {ε : Type} : Ending Empty → Ending ε
  | .finished => .finished
  | .stepLimit limit => .stepLimit limit
  | .outputLimit cap => .outputLimit cap
@[simp] theorem Ending.lift_self (ending : Ending Empty) : (ending.lift : Ending Empty) = ending := by
  cases ending with
  | refused reason => exact reason.elim
  | _ => rfl

namespace State

/-- Why a run stops at a state when `allowed` more steps may be taken; none if the next step is taken. -/
def stop? (loaded : Loaded) (limits : Limits) (allowed : Nat) (s : State) : Option (Ending Empty) :=
  match s.next loaded, allowed with
  | none, _ => some .finished
  | some _, 0 => some (.stepLimit limits.steps)
  | some .output, _ + 1 => (limits.reached? s.store.writes).map .outputLimit
  | some _, _ + 1 => none

/-- What a run leaves that stops at a state. -/
def stopped (s : State) : Ending Empty → State
  | .outputLimit _ => s.refuse
  | _ => s

theorem stop?_of_ended (ended : s.next loaded = none) (allowed : Nat) :
    s.stop? loaded limits allowed = some .finished := by
  simp only [stop?,ended]
theorem stop?_zero {command : Command} (here : s.next loaded = some command) :
    s.stop? loaded limits 0 = some (.stepLimit limits.steps) := by
  simp only [stop?,here]
theorem stop?_output (writing : s.next loaded = some .output) (allowed : Nat) :
    s.stop? loaded limits (allowed + 1) = (limits.reached? s.store.writes).map .outputLimit := by
  simp only [stop?,writing]
theorem stop?_other {command : Command} (here : s.next loaded = some command) (other : command ≠ .output)
    (allowed : Nat) : s.stop? loaded limits (allowed + 1) = none := by
  cases command with
  | output => exact absurd rfl other
  | _ => simp only [stop?,here]

/-- All that can come of a state: the program was left, no step is allowed, a byte would exceed the cap, or a
    step is taken, which writes within the cap or does something else. -/
inductive Verdict (loaded : Loaded) (limits : Limits) (s : State) : Nat → Option (Ending Empty) → Prop
  | ended {allowed : Nat} (ended : s.next loaded = none) : Verdict loaded limits s allowed (some .finished)
  | spent {command : Command} (here : s.next loaded = some command) :
    Verdict loaded limits s 0 (some (.stepLimit limits.steps))
  | exceeds {allowed cap : Nat} (writing : s.next loaded = some .output)
    (reached : limits.reached? s.store.writes = some cap) :
    Verdict loaded limits s (allowed + 1) (some (.outputLimit cap))
  | writes {allowed : Nat} (writing : s.next loaded = some .output)
    (within : limits.reached? s.store.writes = none) : Verdict loaded limits s (allowed + 1) none
  | other {allowed : Nat} {command : Command} (here : s.next loaded = some command)
    (other : command ≠ .output) : Verdict loaded limits s (allowed + 1) none

theorem verdict (loaded : Loaded) (limits : Limits) (s : State) (allowed : Nat) :
    Verdict loaded limits s allowed (s.stop? loaded limits allowed) := by
  cases here : s.next loaded with
  | none =>
    rw [stop?_of_ended here]
    exact .ended here
  | some command =>
    cases allowed with
    | zero =>
      rw [stop?_zero here]
      exact .spent here
    | succ allowed =>
      by_cases writing : command = .output
      · subst writing
        rw [stop?_output here]
        cases reached : limits.reached? s.store.writes with
        | some cap => exact .exceeds here reached
        | none => exact .writes here reached
      · rw [stop?_other here writing]
        exact .other here writing
/-- What a known outcome tells about the state. -/
theorem verdict_of {allowed : Nat} {outcome : Option (Ending Empty)}
    (known : s.stop? loaded limits allowed = outcome) : Verdict loaded limits s allowed outcome :=
  known ▸ verdict loaded limits s allowed

theorem stop?_zero_ne_none : s.stop? loaded limits 0 ≠ none := by
  intro goes
  cases verdict_of goes

/-- A step is only taken if there is a command, steps are left, and a byte stays within the cap. -/
theorem of_stop?_none {allowed : Nat} (goes : s.stop? loaded limits allowed = none) :
    (∃ command, s.next loaded = some command) ∧ 0 < allowed ∧
      (s.next loaded = some .output → ∀ cap, limits.output = some cap → s.store.writes < cap) := by
  cases verdict_of goes with
  | writes writing within =>
    exact ⟨⟨.output,writing⟩,Nat.succ_pos _,fun _ => Limits.reached?_eq_none.mp within⟩
  | @other _ command here other =>
    refine ⟨⟨command,here⟩,Nat.succ_pos _,fun writing => ?_⟩
    exact absurd (Option.some.inj (here.symm.trans writing)) other

theorem of_stop?_finished {allowed : Nat} (stops : s.stop? loaded limits allowed = some .finished) :
    s.next loaded = none := by
  cases verdict_of stops with
  | ended ended => exact ended

theorem of_stop?_stepLimit {allowed limit : Nat}
    (stops : s.stop? loaded limits allowed = some (.stepLimit limit)) :
    limit = limits.steps ∧ allowed = 0 ∧ ∃ command, s.next loaded = some command := by
  cases verdict_of stops with
  | @spent command here => exact ⟨rfl,rfl,command,here⟩

theorem of_stop?_outputLimit {allowed cap : Nat}
    (stops : s.stop? loaded limits allowed = some (.outputLimit cap)) :
    s.next loaded = some .output ∧ 0 < allowed ∧ limits.output = some cap ∧ cap ≤ s.store.writes := by
  cases verdict_of stops with
  | exceeds writing reached => exact ⟨writing,Nat.succ_pos _,Limits.reached?_eq_some.mp reached⟩

@[simp] theorem store_stopped (s : State) (ending : Ending Empty) : (s.stopped ending).store = s.store := by
  cases ending <;> rfl

end State

/-- Induction along a run: it stops at a state, or it takes a step and goes on. -/
theorem State.run_induction (loaded : Loaded) (limits : Limits) {motive : Nat → State → Prop}
    (stops : ∀ allowed s ending, s.stop? loaded limits allowed = some ending → motive allowed s)
    (goes : ∀ allowed s, s.stop? loaded limits (allowed + 1) = none → motive allowed (s.step loaded) →
      motive (allowed + 1) s) (allowed : Nat) (s : State) : motive allowed s := by
  cases stop : s.stop? loaded limits allowed with
  | some ending => exact stops allowed s ending stop
  | none =>
    cases allowed with
    | zero => exact absurd stop stop?_zero_ne_none
    | succ allowed => exact goes allowed s stop (run_induction loaded limits stops goes allowed (s.step loaded))

namespace Run
open State
variable {σ ε : Type} {allowed : Nat}

/-- Where a run stops, the sink has no say. -/
theorem resume_stop (sink : Sink σ ε) (memory : σ) {ending : Ending Empty}
    (stops : s.stop? loaded limits allowed = some ending) :
    resume loaded limits sink allowed s memory = ⟨ending.lift,s.stopped ending,memory⟩ := by
  cases verdict_of stops with
  | ended ended => cases allowed <;> simp only [resume,ended,stopped,Ending.lift]
  | spent here => simp only [resume,here,stopped,Ending.lift]
  | exceeds writing reached => simp only [resume,writing,reached,stopped,Ending.lift]

/-- A command that writes nothing is no matter of the sink. -/
theorem resume_other (sink : Sink σ ε) (memory : σ) {command : Command}
    (here : s.next loaded = some command) (other : command ≠ .output) :
    resume loaded limits sink (allowed + 1) s memory =
      resume loaded limits sink allowed (s.step loaded) memory := by
  rw [step_of_next here]
  cases command with
  | output => exact absurd rfl other
  | _ => simp only [resume,here]

/-- A byte within the cap is handed to the sink. -/
theorem resume_output (sink : Sink σ ε) (memory : σ) (writing : s.next loaded = some .output)
    (within : limits.reached? s.store.writes = none) :
    resume loaded limits sink (allowed + 1) s memory =
      match sink.accept s.store.current memory with
      | (.ok (),memory) => resume loaded limits sink allowed (s.step loaded) memory
      | (.error reason,memory) => ⟨.refused reason,s.breakOff,memory⟩ := by
  rw [step_of_next writing]
  rcases handed : sink.accept s.store.current memory with ⟨verdict,after⟩
  cases verdict <;> simp only [resume,writing,within,handed]

theorem resume_go (goes : s.stop? loaded limits (allowed + 1) = none) :
    resume loaded limits Sink.silent (allowed + 1) s () =
      resume loaded limits Sink.silent allowed (s.step loaded) () := by
  cases verdict_of goes with
  | writes writing within =>
    rw [resume_output Sink.silent () writing within]
    rfl
  | other here other => exact resume_other Sink.silent () here other

theorem resume_after {n : Nat}
    (goes : ∀ i < n, (after loaded i s).stop? loaded limits (allowed - i) = none) :
    resume loaded limits Sink.silent allowed s () =
      resume loaded limits Sink.silent (allowed - n) (after loaded n s) () := by
  induction n with
  | zero => rfl
  | succ n ih =>
    have goesOn := goes n (Nat.lt_succ_self n)
    have some_left : 0 < allowed - n := (of_stop?_none goesOn).2.1
    have one_less : allowed - n = allowed - (n + 1) + 1 := by omega
    rw [one_less] at goesOn
    rw [ih fun i lt => goes i (Nat.lt_succ_of_lt lt),one_less,resume_go goesOn,after_succ]

end Run

/-- A run that may take `allowed` steps takes `n` of them and then stops. -/
structure State.StopsAt (loaded : Loaded) (limits : Limits) (allowed : Nat) (s : State) (n : Nat)
    (ending : Ending Empty) : Prop where
  goes : ∀ i < n, (after loaded i s).stop? loaded limits (allowed - i) = none
  stops : (after loaded n s).stop? loaded limits (allowed - n) = some ending

namespace State.StopsAt
variable {allowed n : Nat} {ending : Ending Empty}

theorem resume_eq (stopsAt : StopsAt loaded limits allowed s n ending) :
    Run.resume loaded limits Sink.silent allowed s () = ⟨ending,(after loaded n s).stopped ending,()⟩ := by
  rw [Run.resume_after stopsAt.goes,Run.resume_stop Sink.silent () stopsAt.stops,Ending.lift_self]

theorem goes_of_lt (stopsAt : StopsAt loaded limits allowed s n ending) : Goes loaded n s :=
  fun i lt => (of_stop?_none (stopsAt.goes i lt)).1

theorem le_allowed (stopsAt : StopsAt loaded limits allowed s n ending) : n ≤ allowed := by
  by_contra beyond
  have goesOn := stopsAt.goes allowed (Nat.lt_of_not_le beyond)
  rw [Nat.sub_self] at goesOn
  exact stop?_zero_ne_none goesOn

end State.StopsAt

/-- Every run stops. -/
theorem State.exists_stopsAt (s : State) (loaded : Loaded) (limits : Limits) (allowed : Nat) :
    ∃ n ending, StopsAt loaded limits allowed s n ending := by
  have stopsLast : ∃ n, (after loaded n s).stop? loaded limits (allowed - n) ≠ none :=
    ⟨allowed,by rw [Nat.sub_self]; exact stop?_zero_ne_none⟩
  classical
  obtain ⟨ending,stops⟩ := Option.ne_none_iff_exists'.mp (Nat.find_spec stopsLast)
  exact ⟨Nat.find stopsLast,ending,fun i lt => not_not.mp (Nat.find_min stopsLast lt),stops⟩

namespace Machine
variable {σ ε : Type}

theorem load_eq_ok {program : Program} {input : Bytes} :
    load program input = .ok loaded ↔
      ∃ jumps, Jumps.ofProgram program = .ok jumps ∧ loaded = ⟨program.toArray,jumps,input.toArray⟩ := by
  cases found : Jumps.ofProgram program with
  | error fault => simp [load,found,Except.map]
  | ok jumps => simp [load,found,Except.map,eq_comm]

/-- A program that is accepted is run on a fresh ring. -/
theorem run_of_load (machine : Machine) (sink : Sink σ ε) (memory : σ) {program : Program} {input : Bytes}
    (loads : load program input = .ok loaded) :
    machine.run sink memory program input =
      let run := loaded.run machine.size machine.limits sink memory
      (answer run,{ machine with state := run.state },run.memory) := by
  simp only [run,loads]

/-- What a call gives for a run that stops. -/
def answerAt (ending : Ending Empty) (s : State) : Except (Halt Empty) Bytes :=
  answer (⟨ending,s,()⟩ : Run Unit Empty)

theorem run_of_stopsAt (machine : Machine) {program : Program} {input : Bytes}
    (loads : load program input = .ok loaded) {n : Nat} {ending : Ending Empty}
    (stopsAt : (State.initial machine.size).StopsAt loaded machine.limits machine.limits.steps n ending) :
    let ran := machine.run Sink.silent () program input
    let last := (State.after loaded n (State.initial machine.size)).stopped ending
    ran.1 = answerAt ending last ∧ ran.2.1.state = last := by
  rw [machine.run_of_load Sink.silent () loads,Loaded.run,stopsAt.resume_eq]
  exact ⟨rfl,rfl⟩

/-- A call takes the steps of the run without limits up to the first state where it stops. -/
theorem exists_run (machine : Machine) {program : Program} {input : Bytes}
    (loads : load program input = .ok loaded) :
    ∃ n ending, (State.initial machine.size).StopsAt loaded machine.limits machine.limits.steps n ending ∧
      (State.after loaded n (State.initial machine.size)).steps = n ∧
      (machine.run Sink.silent () program input).1 =
        answerAt ending ((State.after loaded n (State.initial machine.size)).stopped ending) ∧
      (machine.run Sink.silent () program input).2.1.state =
        (State.after loaded n (State.initial machine.size)).stopped ending := by
  obtain ⟨n,ending,stopsAt⟩ :=
    (State.initial machine.size).exists_stopsAt loaded machine.limits machine.limits.steps
  refine ⟨n,ending,stopsAt,?_,machine.run_of_stopsAt loads stopsAt⟩
  rw [State.steps_after stopsAt.goes_of_lt]
  exact Nat.zero_add n

end Machine

end TapeArena
