import TapeArena.Proofs.Limits

/-!
What a sink is handed and what it changes. A sink is handed the bytes of the output in order, no more and no
fewer (`resume_recording`). A run with a sink is the run without one, unless the sink refuses one of the
bytes that the run without it writes; then it is broken off at the first of these (`resume_sink`).
-/
namespace TapeArena
variable {σ ε : Type} {loaded : Loaded} {limits : Limits} {s : State}

/-- A result without a sink, as a result of a call with one. -/
def Halt.lift : Halt Empty → Halt ε
  | .fault reason => .fault reason

namespace Sink

/-- The sink never refuses a byte, whatever it remembers. -/
def Accepting (sink : Sink σ ε) : Prop := ∀ byte memory, (sink.accept byte memory).1 = .ok ()
/-- The sink that also keeps what it is handed, in order. -/
def recording (sink : Sink σ ε) : Sink (σ × Bytes) ε where
  accept byte := fun (memory,seen) =>
    let (verdict,memory) := sink.accept byte memory
    (verdict,memory,seen ++ [byte])
/-- The first byte that the sink refuses when it is handed some bytes in order: the number of the call,
    counted from one, and the reason. -/
def refusal? (sink : Sink σ ε) : Bytes → σ → Option (Nat × ε)
  | [], _ => none
  | byte :: rest, memory =>
    match sink.accept byte memory with
    | (.ok (),memory) => (refusal? sink rest memory).map fun (n,reason) => (n + 1,reason)
    | (.error reason,_) => some (1,reason)

theorem refusal?_ok {sink : Sink σ ε} {byte : UInt8} {memory after : σ}
    (accepted : sink.accept byte memory = (.ok (),after)) (rest : Bytes) :
    sink.refusal? (byte :: rest) memory = (sink.refusal? rest after).map fun (n,reason) => (n + 1,reason) := by
  simp only [refusal?,accepted]
theorem refusal?_error {sink : Sink σ ε} {byte : UInt8} {memory after : σ} {reason : ε}
    (refused : sink.accept byte memory = (.error reason,after)) (rest : Bytes) :
    sink.refusal? (byte :: rest) memory = some (1,reason) := by
  simp only [refusal?,refused]

theorem refusal?_of_accepting {sink : Sink σ ε} (accepting : sink.Accepting) (bytes : Bytes) (memory : σ) :
    sink.refusal? bytes memory = none := by
  induction bytes generalizing memory with
  | nil => rfl
  | cons byte rest ih =>
    rcases handed : sink.accept byte memory with ⟨verdict,after⟩
    have accepted := accepting byte memory
    rw [handed] at accepted
    subst accepted
    rw [refusal?_ok handed,ih after]
    rfl
/-- The sink refuses one of the bytes that it is handed. -/
theorem refusal?_le {sink : Sink σ ε} {bytes : Bytes} {memory : σ} {n : Nat} {reason : ε}
    (refuses : sink.refusal? bytes memory = some (n,reason)) : n ≤ bytes.length := by
  induction bytes generalizing memory n with
  | nil => cases refuses
  | cons byte rest ih =>
    rcases handed : sink.accept byte memory with ⟨verdict,after⟩
    cases verdict with
    | ok =>
      rw [refusal?_ok handed] at refuses
      obtain ⟨⟨m,reason⟩,refusesLater,same⟩ := Option.map_eq_some_iff.mp refuses
      cases same
      exact Nat.succ_le_succ (ih refusesLater)
    | error reason =>
      rw [refusal?_error handed] at refuses
      cases refuses
      exact Nat.succ_le_succ (Nat.zero_le _)

end Sink

namespace State

theorem output_step_other {command : Command} (here : s.next loaded = some command)
    (other : command ≠ .output) : (s.step loaded).store.output = s.store.output := by
  rw [step_of_next here]
  exact Store.output_perform other loaded.input s.store
theorem output_step_self (writing : s.next loaded = some .output) :
    (s.step loaded).store.output.toList = s.store.output.toList ++ [s.store.current] := by
  rw [step_of_next writing]
  exact Array.toList_push

end State

namespace Run
open State

/-- A sink that keeps what it is handed changes nothing and keeps what is written. -/
theorem resume_recording (loaded : Loaded) (limits : Limits) (sink : Sink σ ε) (allowed : Nat) (s : State)
    (memory : σ) (seen : Bytes) :
    let run := resume loaded limits sink allowed s memory
    ∃ new, run.state.store.output.toList = s.store.output.toList ++ new ∧
      resume loaded limits sink.recording allowed s (memory,seen) =
        ⟨run.ending,run.state,run.memory,seen ++ new⟩ := by
  induction allowed, s using run_induction loaded limits generalizing memory seen with
  | stops allowed s ending stops =>
    refine ⟨[],?_,?_⟩
    · simp [resume_stop sink memory stops]
    · simp [resume_stop sink memory stops,resume_stop sink.recording (memory,seen) stops]
  | goes allowed s goes ih =>
    cases State.verdict_of goes with
    | writes writing within =>
      rw [resume_output sink memory writing within,resume_output sink.recording (memory,seen) writing within]
      rcases handed : sink.accept s.store.current memory with ⟨verdict,after⟩
      cases verdict with
      | ok =>
        obtain ⟨new,written,recorded⟩ := ih after (seen ++ [s.store.current])
        refine ⟨s.store.current :: new,?_,?_⟩
        · simpa [output_step_self writing] using written
        · simpa [Sink.recording,handed] using recorded
      | error reason =>
        refine ⟨[s.store.current],?_,?_⟩
        · simp [breakOff,Store.write]
        · simp [Sink.recording,handed]
    | other here other =>
      rw [resume_other sink memory here other,resume_other sink.recording (memory,seen) here other]
      obtain ⟨new,written,recorded⟩ := ih memory seen
      rw [output_step_other here other] at written
      exact ⟨new,written,recorded⟩

/-- How a run that a sink broke off at its `n`-th byte compares with the run without limits. -/
structure BrokenOff (loaded : Loaded) (s : State) (n : Nat) (reason : ε) (run : Run σ ε) (i : Nat) : Prop where
  writing : (after loaded i s).next loaded = some .output
  counted : performed loaded .output i s + 1 = n
  ending : run.ending = .refused reason
  state : run.state = (after loaded i s).breakOff

theorem BrokenOff.step_self {n i : Nat} {reason : ε} {run : Run σ ε} (writing : s.next loaded = some .output)
    (broken : BrokenOff loaded (s.step loaded) n reason run i) :
    BrokenOff loaded s (n + 1) reason run (i + 1) := by
  refine ⟨broken.writing,?_,broken.ending,broken.state⟩
  rw [performed_step_self writing,broken.counted]
theorem BrokenOff.step_other {n i : Nat} {reason : ε} {run : Run σ ε} (other : s.next loaded ≠ some .output)
    (broken : BrokenOff loaded (s.step loaded) n reason run i) :
    BrokenOff loaded s n reason run (i + 1) := by
  refine ⟨broken.writing,?_,broken.ending,broken.state⟩
  rw [performed_step_other other,broken.counted]

/-- A run with a sink is the run without one, unless the sink refuses one of the bytes that the latter
    writes; then it is broken off at the first of these. -/
theorem resume_sink (loaded : Loaded) (limits : Limits) (sink : Sink σ ε) (allowed : Nat) (s : State)
    (memory : σ) :
    let run := resume loaded limits sink allowed s memory
    let quiet := resume loaded limits Sink.silent allowed s ()
    ∃ new, quiet.state.store.output.toList = s.store.output.toList ++ new ∧
      (sink.refusal? new memory = none → run.ending = quiet.ending.lift ∧ run.state = quiet.state) ∧
      ∀ n reason, sink.refusal? new memory = some (n,reason) →
        run.state.store.output.toList = s.store.output.toList ++ new.take n ∧
          ∃ i < allowed, BrokenOff loaded s n reason run i := by
  induction allowed, s using run_induction loaded limits generalizing memory with
  | stops allowed s ending stops =>
    refine ⟨[],?_,?_,?_⟩
    · simp [resume_stop Sink.silent () stops]
    · intro _
      simp [resume_stop sink memory stops,resume_stop Sink.silent () stops]
    · intro n reason refuses
      cases refuses
  | goes allowed s goes ih =>
    rw [resume_go goes]
    cases State.verdict_of goes with
    | writes writing within =>
      rw [resume_output sink memory writing within]
      rcases handed : sink.accept s.store.current memory with ⟨verdict,after⟩
      -- The run without a sink goes on in either case, so its bytes are needed even if this one is refused.
      obtain ⟨new,written,accepts,refuses⟩ := ih after
      rw [output_step_self writing] at written
      refine ⟨s.store.current :: new,by simpa using written,?_,?_⟩
      · intro accepted
        cases verdict with
        | ok =>
          rw [Sink.refusal?_ok handed] at accepted
          exact accepts (Option.map_eq_none_iff.mp accepted)
        | error reason =>
          rw [Sink.refusal?_error handed] at accepted
          cases accepted
      · intro n reason refused
        cases verdict with
        | ok =>
          rw [Sink.refusal?_ok handed] at refused
          obtain ⟨⟨m,reason⟩,refusedLater,same⟩ := Option.map_eq_some_iff.mp refused
          cases same
          obtain ⟨output,i,lt,broken⟩ := refuses m reason refusedLater
          rw [output_step_self writing] at output
          exact ⟨by simpa using output,i + 1,Nat.succ_lt_succ lt,broken.step_self writing⟩
        | error reason =>
          rw [Sink.refusal?_error handed] at refused
          cases refused
          exact ⟨by simp [breakOff,Store.write],0,Nat.succ_pos allowed,writing,rfl,rfl,rfl⟩
    | other here other =>
      rw [resume_other sink memory here other]
      obtain ⟨new,written,accepts,refuses⟩ := ih memory
      rw [output_step_other here other] at written refuses
      refine ⟨new,written,accepts,?_⟩
      intro n reason refused
      obtain ⟨output,i,lt,broken⟩ := refuses n reason refused
      exact ⟨output,i + 1,Nat.succ_lt_succ lt,broken.step_other (by simpa [here] using other)⟩

end Run

namespace Machine

theorem answer_lift {run : Run σ ε} {quiet : Run Unit Empty} (ending : run.ending = quiet.ending.lift)
    (state : run.state = quiet.state) : answer run = (answer quiet).mapError Halt.lift := by
  cases same : quiet.ending with
  | refused reason => exact reason.elim
  | _ => simp [answer,ending,state,same,Ending.lift,Except.mapError,Halt.lift]

section
variable (machine : Machine) (sink : Sink σ ε) (memory : σ) {program : Program} {input : Bytes}

/-- A sink that keeps what it is handed keeps the output. -/
theorem run_recording (loads : load program input = .ok loaded) :
    let ran := machine.run sink memory program input
    machine.run sink.recording (memory,[]) program input =
      (ran.1,ran.2.1,ran.2.2,ran.2.1.state.store.output.toList) := by
  rw [machine.run_of_load sink memory loads,machine.run_of_load sink.recording (memory,[]) loads]
  obtain ⟨new,written,recorded⟩ := Run.resume_recording loaded machine.limits sink machine.limits.steps
    (State.initial machine.size) memory []
  have written : _ = new := written
  simp only [Loaded.run,recorded,written,List.nil_append]
  rfl

theorem written_of_ok (loads : load program input = .ok loaded) {bytes : Bytes}
    (returned : (machine.run sink memory program input).1 = .ok bytes) :
    bytes = (machine.run sink memory program input).2.1.state.store.output.toList := by
  rw [machine.run_of_load sink memory loads] at returned ⊢
  simp only [answer] at returned
  split at returned
  · cases returned
    rfl
  all_goals cases returned

/-- A sink that refuses no byte of the run without it changes nothing. -/
theorem run_unrefused (loads : load program input = .ok loaded)
    (accepted : sink.refusal? (machine.run Sink.silent () program input).2.1.state.store.output.toList memory =
      none) :
    (machine.run sink memory program input).1 =
        (machine.run Sink.silent () program input).1.mapError Halt.lift ∧
      (machine.run sink memory program input).2.1 = (machine.run Sink.silent () program input).2.1 := by
  rw [machine.run_of_load Sink.silent () loads] at accepted ⊢
  rw [machine.run_of_load sink memory loads]
  obtain ⟨new,written,accepts,-⟩ := Run.resume_sink loaded machine.limits sink machine.limits.steps
    (State.initial machine.size) memory
  have written : _ = new := written
  obtain ⟨ending,state⟩ := accepts (by rw [← written]; exact accepted)
  exact ⟨answer_lift ending state,by simp only [Loaded.run,state]⟩

/-- A sink that refuses a byte of the run without it ends the call at the step that wrote the byte. -/
theorem run_refused (loads : load program input = .ok loaded) {n : Nat} {reason : ε}
    (refused : sink.refusal? (machine.run Sink.silent () program input).2.1.state.store.output.toList memory =
      some (n,reason)) :
    let ran := machine.run sink memory program input
    ran.1 = .error (.refused reason) ∧
      ran.2.1.state.store.output.toList =
        (machine.run Sink.silent () program input).2.1.state.store.output.toList.take n ∧
      ∃ i < machine.limits.steps,
        let moment := State.after loaded i (State.initial machine.size)
        moment.next loaded = some .output ∧
        State.performed loaded .output i (State.initial machine.size) + 1 = n ∧
        ran.2.1.state = { moment with store := moment.store.write, steps := i + 1 } := by
  intro ran
  have ranIs := machine.run_of_load sink memory loads
  rw [machine.run_of_load Sink.silent () loads] at refused ⊢
  obtain ⟨new,written,-,refuses⟩ := Run.resume_sink loaded machine.limits sink machine.limits.steps
    (State.initial machine.size) memory
  have written : _ = new := written
  obtain ⟨output,i,lt,broken⟩ := refuses n reason (by rw [← written]; exact refused)
  have stateIs : ran.2.1.state = _ := (congrArg (fun ran => ran.2.1.state) ranIs).trans broken.state
  have steps : (State.after loaded i (State.initial machine.size)).steps = i := by
    rw [State.steps_after fun j lt => State.next_of_le (Nat.le_of_lt lt) broken.writing]
    exact Nat.zero_add i
  refine ⟨?_,?_,i,lt,broken.writing,broken.counted,?_⟩
  · rw [show ran.1 = _ from congrArg Prod.fst ranIs]
    simp only [answer,Loaded.run,broken.ending]
  · rw [show ran.2.1.state = _ from congrArg (fun ran => ran.2.1.state) ranIs,Loaded.run,Loaded.run,output,written]
    rfl
  · rw [stateIs,State.breakOff,steps]

end

theorem fault_of_lift {quiet : Except (Halt Empty) Bytes} {fault : Fault}
    (failed : quiet.mapError Halt.lift = .error (.fault fault : Halt ε)) : quiet = .error (.fault fault) := by
  rcases quiet with (other | reason) | bytes
  · cases failed
    rfl
  · exact reason.elim
  · cases failed

theorem lift_ne_refused {quiet : Except (Halt Empty) Bytes} (reason : ε) :
    quiet.mapError Halt.lift ≠ .error (.refused reason) := by
  rcases quiet with (fault | none) | bytes
  · intro same
    cases same
  · exact none.elim
  · intro same
    cases same

/-- The bytes that a call hands to its sink are those of its output, in order; a byte beyond the cap is not
    among them. As long as the sink refuses no byte of the run without a sink, it changes nothing; if it
    refuses the `n`-th of these, that ends the call at the step that wrote it, whatever limit would have come
    later. -/
theorem run_sink (machine : Machine) (sink : Sink σ ε) (memory : σ) {program : Program} {input : Bytes}
    (loads : load program input = .ok loaded) :
    let start := State.initial machine.size
    let ran := machine.run sink memory program input
    let quiet := machine.run Sink.silent () program input
    let written := ran.2.1.state.store.output.toList
    let unhindered := quiet.2.1.state.store.output.toList
    machine.run sink.recording (memory,[]) program input = (ran.1,ran.2.1,ran.2.2,written) ∧
    (∀ bytes, ran.1 = .ok bytes → bytes = written) ∧
    (∀ cap, ran.1 = .error (.fault (.outputLimit (.ofNat cap))) →
      machine.limits.output = some cap ∧ written.length = cap) ∧
    (sink.Accepting → sink.refusal? unhindered memory = none) ∧
    (sink.refusal? unhindered memory = none → ran.1 = quiet.1.mapError Halt.lift ∧ ran.2.1 = quiet.2.1) ∧
    (∀ reason, ran.1 = .error (.refused reason) → ∃ n, sink.refusal? unhindered memory = some (n,reason)) ∧
    (∀ n reason, sink.refusal? unhindered memory = some (n,reason) →
      ran.1 = .error (.refused reason) ∧ written = unhindered.take n ∧ written.length = n ∧
      ∃ i < machine.limits.steps,
        let moment := State.after loaded i start
        moment.next loaded = some .output ∧ State.performed loaded .output i start + 1 = n ∧
        ran.2.1.state = { moment with store := moment.store.write, steps := i + 1 }) := by
  intro start ran quiet written unhindered
  refine ⟨machine.run_recording sink memory loads,fun _ => machine.written_of_ok sink memory loads,?_,
    fun accepting => Sink.refusal?_of_accepting accepting unhindered memory,
    machine.run_unrefused sink memory loads,?_,?_⟩
  · intro cap exceeded
    cases refused : sink.refusal? unhindered memory with
    | none =>
      obtain ⟨result,same⟩ := machine.run_unrefused sink memory loads refused
      have exceededQuietly : quiet.1 = .error (.fault (.outputLimit (.ofNat cap))) :=
        fault_of_lift (result.symm.trans exceeded)
      obtain ⟨capped,filled⟩ := machine.writes_of_outputLimit loads exceededQuietly
      refine ⟨capped,?_⟩
      rw [show written = unhindered from congrArg (fun machine => machine.state.store.output.toList) same]
      exact filled
    | some refusal =>
      have result := (machine.run_refused sink memory loads refused).1
      cases result.symm.trans exceeded
  · intro reason ended
    cases refused : sink.refusal? unhindered memory with
    | none =>
      have result := (machine.run_unrefused sink memory loads refused).1
      exact absurd (result.symm.trans ended) (lift_ne_refused reason)
    | some refusal =>
      have result := (machine.run_refused sink memory loads refused).1
      cases result.symm.trans ended
      exact ⟨refusal.1,rfl⟩
  · intro n reason refused
    obtain ⟨result,output,moment⟩ := machine.run_refused sink memory loads refused
    refine ⟨result,output,?_,moment⟩
    rw [show written = _ from output,List.length_take]
    exact Nat.min_eq_left (Sink.refusal?_le refused)

/-- A loop that writes forever, with a sink that refuses the second byte. -/
theorem run_sink_second :
    let endless : Program := [.increment,.loopOpen,.output,.loopClose]
    let loaded : Loaded := ⟨endless.toArray,#[none,some 3,none,some 1],#[]⟩
    let sink : Sink Nat Unit := ⟨fun _ count => (if count = 1 then .error () else .ok (),count + 1)⟩
    let machine : Machine := ⟨2,⟨9,some 3⟩,State.initial 2⟩
    load endless [] = .ok loaded ∧ (machine.run sink 0 endless []).1 = .error (.refused ()) ∧
      (machine.run sink.recording (0,[]) endless []).2.2.2 = [1,1] := by
  intro endless loaded sink machine
  have loads : load endless [] = .ok loaded := rfl
  obtain ⟨recorded,-,-,-,-,-,refuses⟩ := run_sink machine sink 0 loads
  refine ⟨loads,(refuses 2 () (by decide)).1,?_⟩
  rw [recorded]
  decide

end Machine

end TapeArena
