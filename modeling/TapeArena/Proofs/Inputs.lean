import TapeArena.Proofs.Cut

/-!
What the input has to do with a run. The input acts as if it went on with zeros forever: the `n`-th read takes
its `n`-th byte, or a zero, and the number of bytes that were read is the number of reads up to the length
of the input (`reads_after`). Hence bytes that are not read have no influence, and neither has the end of
the input (`run_input`).
-/
namespace TapeArena
variable {loaded : Loaded} {limits : Limits} {s : State}

def Store.withReads (store : Store) (reads : Nat) : Store := { store with reads }
def State.withReads (s : State) (reads : Nat) : State := { s with store := s.store.withReads reads }
def Loaded.withInput (loaded : Loaded) (input : Array UInt8) : Loaded := { loaded with input }

namespace Store

/-- The `n`-th read takes the `n`-th byte of the input followed by zeros. -/
theorem read_eq {input : Array UInt8} {store : Store} {n : Nat} (reads : store.reads = min n input.size) :
    store.read input = (store.put (input.getD n 0)).withReads (min (n + 1) input.size) := by
  by_cases inside : n < input.size
  · have found : input[store.reads]? = some (input.getD n 0) := by
      rw [reads,Nat.min_eq_left (Nat.le_of_lt inside)]
      simp [inside]
    have next : store.reads + 1 = min (n + 1) input.size := by omega
    simp only [read,found,next]
    rfl
  · have missing : input[store.reads]? = none := by
      rw [reads]
      simp only [Array.getElem?_eq_none_iff]
      omega
    have stays : min (n + 1) input.size = store.reads := by omega
    have zero : input.getD n 0 = 0 := by simp [inside]
    simp only [read,missing,stays,zero]
    rfl

theorem reads_perform {command : Command} (other : command ≠ .input) (input : Array UInt8) (store : Store) :
    (store.perform input command).reads = store.reads := by
  cases command with
  | input => exact absurd rfl other
  | _ => rfl
/-- Only a read looks at the input. -/
theorem perform_withReads {command : Command} (other : command ≠ .input) (input another : Array UInt8)
    (store : Store) (reads : Nat) :
    (store.withReads reads).perform another command = (store.perform input command).withReads reads := by
  cases command with
  | input => exact absurd rfl other
  | _ => rfl

/-- Reads of the same byte from two inputs leave the same store but for the number of bytes read. -/
theorem read_withReads {input another : Array UInt8} {store : Store} {n : Nat}
    (reads : store.reads = min n input.size) (same : input.getD n 0 = another.getD n 0) :
    (store.withReads (min n another.size)).read another =
      (store.read input).withReads (min (n + 1) another.size) := by
  have there : (store.withReads (min n another.size)).reads = min n another.size := rfl
  rw [read_eq reads,read_eq there,same]
  rfl

end Store

namespace State

/-- Bytes are counted as long as there are some. -/
theorem reads_after (loaded : Loaded) (fresh : s.store.reads = 0) (n : Nat) :
    (after loaded n s).store.reads = min (performed loaded .input n s) loaded.input.size := by
  induction n with
  | zero => simp [fresh,performed]
  | succ n ih =>
    rw [after_succ]
    cases here : (after loaded n s).next loaded with
    | none =>
      rw [step_of_ended here,performed_succ_other (by simp [here]),ih]
    | some command =>
      rw [step_of_next here]
      by_cases reading : command = .input
      · subst reading
        rw [performed_succ_self here]
        exact congrArg Store.reads (Store.read_eq ih)
      · rw [performed_succ_other (by simp [here,reading]),← ih]
        exact Store.reads_perform reading _ _

theorem execute_withReads {command : Command} (other : command ≠ .input) (input : Array UInt8) (reads : Nat) :
    (s.withReads reads).execute (loaded.withInput input) command = (s.execute loaded command).withReads reads := by
  have store := Store.perform_withReads other loaded.input input s.store reads
  have landing : (s.withReads reads).landing (loaded.withInput input) command = s.landing loaded command := by
    cases command <;> rfl
  simp only [execute,landing]
  exact congrArg (fun store => ({ store, position := _, steps := _ } : State)) store

/-- A run on another input that agrees on the bytes that are read, zeros included, goes through the same
    states but for the number of bytes read. -/
theorem after_withInput {input : Array UInt8} (fresh : s.store.reads = 0) {n : Nat}
    (agree : ∀ i < performed loaded .input n s, loaded.input.getD i 0 = input.getD i 0) :
    after (loaded.withInput input) n s =
      (after loaded n s).withReads (min (performed loaded .input n s) input.size) := by
  induction n with
  | zero =>
    have none : min (performed loaded .input 0 s) input.size = s.store.reads := by simp [performed,fresh]
    rw [none]
    rfl
  | succ n ih =>
    have agreeBefore : ∀ i < performed loaded .input n s, loaded.input.getD i 0 = input.getD i 0 :=
      fun i lt => agree i (Nat.lt_of_lt_of_le lt (performed_le (Nat.le_succ n)))
    rw [after_succ,after_succ,ih agreeBefore]
    cases here : (after loaded n s).next loaded with
    | none =>
      have hereToo : ((after loaded n s).withReads (min (performed loaded .input n s) input.size)).next
          (loaded.withInput input) = none := here
      rw [step_of_ended here,step_of_ended hereToo,performed_succ_other (by simp [here])]
    | some command =>
      have hereToo : ((after loaded n s).withReads (min (performed loaded .input n s) input.size)).next
          (loaded.withInput input) = some command := here
      rw [step_of_next here,step_of_next hereToo]
      by_cases reading : command = .input
      · subst reading
        have same := agree (performed loaded .input n s) (performed_lt (Nat.lt_succ_self n) here)
        have store := Store.read_withReads (reads_after loaded fresh n) same
        rw [performed_succ_self here]
        exact congrArg (fun store => ({ store, position := _, steps := _ } : State)) store
      · rw [performed_succ_other (by simp [here,reading])]
        exact execute_withReads reading input _

theorem stop?_withReads (input : Array UInt8) (reads allowed : Nat) :
    (s.withReads reads).stop? (loaded.withInput input) limits allowed = s.stop? loaded limits allowed := rfl
theorem stopped_withReads (s : State) (reads : Nat) (ending : Ending Empty) :
    (s.withReads reads).stopped ending = (s.stopped ending).withReads reads := by
  cases ending <;> rfl

/-- A run on another input that agrees on the bytes that are read stops after as many steps. -/
theorem StopsAt.withInput {input : Array UInt8} {allowed n : Nat} {ending : Ending Empty}
    (stopsAt : s.StopsAt loaded limits allowed n ending) (fresh : s.store.reads = 0)
    (agree : ∀ i < performed loaded .input n s, loaded.input.getD i 0 = input.getD i 0) :
    s.StopsAt (loaded.withInput input) limits allowed n ending := by
  have coupled : ∀ i ≤ n, after (loaded.withInput input) i s =
      (after loaded i s).withReads (min (performed loaded .input i s) input.size) :=
    fun i le => after_withInput fresh fun j lt => agree j (Nat.lt_of_lt_of_le lt (performed_le le))
  constructor
  · intro i lt
    rw [coupled i (Nat.le_of_lt lt),stop?_withReads]
    exact stopsAt.goes i lt
  · rw [coupled n (Nat.le_refl n),stop?_withReads]
    exact stopsAt.stops

/-- The step that a run stops at is no read. -/
theorem StopsAt.performed_stopped {allowed n : Nat} {ending : Ending Empty}
    (stopsAt : s.StopsAt loaded limits allowed n ending) (steps : (after loaded n s).steps = n) :
    performed loaded .input ((after loaded n s).stopped ending).steps s = performed loaded .input n s := by
  cases ending with
  | outputLimit cap =>
    obtain ⟨writing,-⟩ := of_stop?_outputLimit stopsAt.stops
    rw [show ((after loaded n s).stopped (.outputLimit cap)).steps = n + 1 from congrArg (· + 1) steps]
    exact performed_succ_other (by simp [writing])
  | refused reason => exact reason.elim
  | _ => exact congrArg (performed loaded .input · s) steps

end State

namespace Machine

theorem load_withInput {program : Program} {input : Bytes} (loads : load program input = .ok loaded)
    (another : Bytes) : load program another = .ok (loaded.withInput another.toArray) := by
  obtain ⟨jumps,resolves,rfl⟩ := load_eq_ok.mp loads
  exact load_eq_ok.mpr ⟨jumps,resolves,rfl⟩

/-- Two inputs that, followed by zeros, agree on as many bytes as a run on the first one performs reads give
    the same run, but for the number of bytes that were there to be read. -/
theorem run_input (machine : Machine) {program : Program} {input : Bytes}
    (loads : load program input = .ok loaded) (another : Bytes) :
    let ran := machine.run Sink.silent () program input
    let reran := machine.run Sink.silent () program another
    let state := ran.2.1.state
    let reads := State.performed loaded .input state.steps (State.initial machine.size)
    (∀ i < reads, input.getD i 0 = another.getD i 0) →
      reran.1 = ran.1 ∧
        reran.2.1.state = { state with store := { state.store with reads := min reads another.length } } := by
  intro ran reran state reads agree
  obtain ⟨n,ending,stopsAt,steps,result,left⟩ := machine.exists_run loads
  have stateIs : state = (State.after loaded n (State.initial machine.size)).stopped ending := left
  have readsIs : reads = State.performed loaded .input n (State.initial machine.size) := by
    rw [← stopsAt.performed_stopped steps,← stateIs]
  obtain ⟨jumps,-,loadedIs⟩ := load_eq_ok.mp loads
  have agreeThere : ∀ i < State.performed loaded .input n (State.initial machine.size),
      loaded.input.getD i 0 = another.toArray.getD i 0 := by
    intro i lt
    simpa [loadedIs] using agree i (readsIs ▸ lt)
  obtain ⟨resultThere,leftThere⟩ := machine.run_of_stopsAt (load_withInput loads another)
    (stopsAt.withInput rfl agreeThere)
  rw [State.after_withInput rfl agreeThere,State.stopped_withReads,← readsIs,← stateIs] at resultThere leftThere
  refine ⟨resultThere.trans ?_,leftThere⟩
  rw [show ran.1 = _ from result,← stateIs]
  cases ending <;> rfl

/-- An echo that reads three times, on an input of two bytes and on one that goes on behind a zero. -/
theorem run_input_echo :
    let echo : Program := [.input,.loopOpen,.output,.input,.loopClose]
    let loaded : Loaded := ⟨echo.toArray,#[none,some 4,none,none,some 1],#[5,6]⟩
    let machine : Machine := ⟨1,⟨20,none⟩,State.initial 1⟩
    load echo [5,6] = .ok loaded ∧ (machine.run Sink.silent () echo [5,6,0,7]).1 = .ok [5,6] ∧
      (machine.run Sink.silent () echo [5,6,0,7]).2.1.state.store.reads = 3 := by
  intro echo loaded machine
  have loads : load echo [5,6] = .ok loaded := rfl
  obtain ⟨result,left⟩ := run_input machine loads [5,6,0,7] (by decide)
  refine ⟨loads,result.trans (by decide),?_⟩
  rw [left]
  decide

end Machine

end TapeArena
