import TapeArena.Proofs.Cut

/-!
Runs whose steps are not limited. How such a run ends is told by the cap alone (`EndsAt`). Every limit that
allows its steps gives its ending and its last state (`EndsAt.resume_eq`), and a limited run that is not
stopped by its limit on steps is such a run (`EndsAt.of_resume`). So what a program gives without a limit on
steps is what it gives under every limit that is large enough (`Machine.Ends`).
-/
namespace TapeArena
variable {loaded : Loaded} {limits : Limits} {s : State}

/-- The steps that are begun and refused where a run ends: one at a byte beyond the cap. -/
def Ending.begun : Ending Empty → Nat
  | .outputLimit _ => 1
  | _ => 0

namespace State

/-- Why a run whose steps are not limited ends at a state; none if the next step is taken. -/
def end? (loaded : Loaded) (cap : Option Nat) (s : State) : Option (Ending Empty) :=
  s.stop? loaded ⟨1,cap⟩ 1

/-- As long as a step is allowed, the number of allowed steps makes no difference. -/
theorem stop?_succ (loaded : Loaded) (limits : Limits) (allowed : Nat) (s : State) :
    s.stop? loaded limits (allowed + 1) = s.end? loaded limits.output := by
  cases here : s.next loaded with
  | none => rw [end?,stop?_of_ended here,stop?_of_ended here]
  | some command =>
    by_cases writing : command = .output
    · subst writing
      rw [end?,stop?_output here,stop?_output here]
      rfl
    · rw [end?,stop?_other here writing,stop?_other here writing]

theorem end?_of_ended {cap : Option Nat} (ended : s.next loaded = none) :
    s.end? loaded cap = some .finished := stop?_of_ended ended 1
theorem end?_other {cap : Option Nat} {command : Command} (here : s.next loaded = some command)
    (other : command ≠ .output) : s.end? loaded cap = none := stop?_other here other 0

/-- Where a run goes on there is a command. -/
theorem next_of_end?_none {cap : Option Nat} (goes : s.end? loaded cap = none) :
    ∃ command, s.next loaded = some command := (of_stop?_none goes).1

/-- Where runs of two programs meet the same command with as many bytes written, they end alike. -/
theorem end?_congr {other : Loaded} {t : State} {cap : Option Nat} (sameNext : t.next other = s.next loaded)
    (sameWrites : t.store.writes = s.store.writes) : t.end? other cap = s.end? loaded cap := by
  simp only [end?,stop?,sameNext,sameWrites]

theorem steps_stopped (s : State) (ending : Ending Empty) :
    (s.stopped ending).steps = s.steps + ending.begun := by
  cases ending <;> rfl

/-- A run whose steps are not limited takes `n` steps under a cap and ends. -/
inductive EndsAt (loaded : Loaded) (cap : Option Nat) : State → Nat → Ending Empty → Prop
  | here {s : State} {ending : Ending Empty} (ends : s.end? loaded cap = some ending) :
    EndsAt loaded cap s 0 ending
  | later {s : State} {n : Nat} {ending : Ending Empty} (goes : s.end? loaded cap = none)
    (later : EndsAt loaded cap (s.step loaded) n ending) : EndsAt loaded cap s (n + 1) ending

namespace EndsAt
variable {cap : Option Nat} {n : Nat} {ending : Ending Empty}

theorem goes_of_lt (ends : EndsAt loaded cap s n ending) : Goes loaded n s := by
  induction ends with
  | here ends => exact fun i lt => absurd lt (Nat.not_lt_zero i)
  | later goes _ ih =>
    intro i lt
    cases i with
    | zero => exact next_of_end?_none goes
    | succ i => exact ih i (Nat.lt_of_succ_lt_succ lt)

theorem end_after (ends : EndsAt loaded cap s n ending) : (after loaded n s).end? loaded cap = some ending := by
  induction ends with
  | here ends => exact ends
  | later _ _ ih => exact ih

/-- The step that is begun and refused where a run ends performs no other command. -/
theorem performed_begun (ends : EndsAt loaded cap s n ending) {command : Command} (other : command ≠ .output) :
    performed loaded command (n + ending.begun) s = performed loaded command n s := by
  have last := ends.end_after
  cases ending with
  | outputLimit cap =>
    obtain ⟨writing,-⟩ := of_stop?_outputLimit last
    exact performed_succ_other (by simpa [writing] using other.symm)
  | _ => rfl

/-- A limit that allows the steps of a run gives its ending and its last state. -/
theorem resume_eq (ends : EndsAt loaded limits.output s n ending) {allowed : Nat}
    (enough : n + ending.begun ≤ allowed) :
    Run.resume loaded limits Sink.silent allowed s () = ⟨ending,(after loaded n s).stopped ending,()⟩ := by
  induction n generalizing s allowed with
  | zero =>
    cases ends with
    | here ends =>
      have stops : s.stop? loaded limits allowed = some ending := by
        cases allowed with
        | zero =>
          cases verdict_of ends with
          | ended ended => exact stop?_of_ended ended 0
          | exceeds writing reached => exact absurd enough (Nat.not_succ_le_zero _)
        | succ allowed => rw [stop?_succ,ends]
      rw [Run.resume_stop Sink.silent () stops,Ending.lift_self,after_zero]
  | succ n ih =>
    cases ends with
    | later goes later =>
      cases allowed with
      | zero => omega
      | succ allowed =>
        rw [Run.resume_go ((stop?_succ loaded limits allowed s).trans goes),ih later (by omega)]
        rfl

/-- A limited run that is not stopped by its limit on steps would end without it as well. -/
theorem of_resume (loaded : Loaded) (limits : Limits) (allowed : Nat) (s : State)
    (unlimited : (Run.resume loaded limits Sink.silent allowed s ()).ending ≠ .stepLimit limits.steps) :
    ∃ n ending, EndsAt loaded limits.output s n ending ∧ n + ending.begun ≤ allowed := by
  induction allowed, s using run_induction loaded limits with
  | stops allowed s ending stops =>
    rw [Run.resume_stop Sink.silent () stops,Ending.lift_self] at unlimited
    cases verdict_of stops with
    | ended ended => exact ⟨0,.finished,.here (end?_of_ended ended),Nat.zero_le allowed⟩
    | spent here => exact absurd rfl unlimited
    | @exceeds allowed cap writing reached =>
      rw [stop?_succ] at stops
      exact ⟨0,.outputLimit cap,.here stops,Nat.succ_le_succ (Nat.zero_le allowed)⟩
  | goes allowed s goes ih =>
    rw [Run.resume_go goes] at unlimited
    obtain ⟨n,ending,later,enough⟩ := ih unlimited
    rw [stop?_succ] at goes
    exact ⟨n + 1,ending,.later goes later,by omega⟩

end EndsAt

end State

theorem Fault.ofBracket_injective {first second : BracketFault}
    (same : ofBracket first = ofBracket second) : first = second := by
  cases first <;> cases second <;> cases same <;> rfl

namespace Machine
open State

/-! ### Programs that are rejected -/

section
variable {σ ε : Type} {program : Program} {input : Bytes} {fault : BracketFault}

theorem load_eq_error :
    load program input = .error fault ↔ Jumps.ofProgram program = .error fault := by
  cases found : Jumps.ofProgram program <;> simp [load,found,Except.map]

/-- No run ends for a bracket. -/
theorem answer_ne_bracket (run : Run σ ε) (fault : BracketFault) :
    answer run ≠ .error (.fault (Fault.ofBracket fault)) := by
  unfold answer
  intro named
  split at named
  all_goals cases fault <;> cases named

variable (machine : Machine) (sink : Sink σ ε) (memory : σ)

/-- A program with a bracket that has no partner is rejected; the machine and its sink notice nothing. -/
theorem run_of_rejected (rejects : Jumps.ofProgram program = .error fault) (input : Bytes) :
    machine.run sink memory program input = (.error (.fault (Fault.ofBracket fault)),machine,memory) := by
  rw [run,load_eq_error.mpr rejects]

/-- A machine names a bracket without a partner if the program has one, and only then. -/
theorem run_eq_bracket :
    (machine.run sink memory program input).1 = .error (.fault (Fault.ofBracket fault)) ↔
      Jumps.ofProgram program = .error fault := by
  constructor
  · intro named
    cases loads : load program input with
    | error found =>
      have resolved := load_eq_error.mp loads
      rw [run_of_rejected machine sink memory resolved] at named
      rw [resolved,Fault.ofBracket_injective (Halt.fault.inj (Except.error.inj named))]
    | ok loaded =>
      rw [run_of_load machine sink memory loads] at named
      exact absurd named (answer_ne_bracket _ fault)
  · intro rejected
    rw [run_of_rejected machine sink memory rejected]

end

/-! ### Calls without a limit on steps -/

def call (size : Nat) (limits : Limits) (program : Program) (input : Bytes) : Except (Halt Empty) Bytes × State :=
  let (result,machine,_) := (new size limits).run Sink.silent () program input
  (result,machine.state)

/-- Without a limit on its steps, a call gives a result and leaves a state: it does so under every limit that
    allows the steps of that state. -/
def Ends (size : Nat) (cap : Option Nat) (program : Program) (input : Bytes)
    (result : Except (Halt Empty) Bytes) (state : State) : Prop :=
  ∀ steps, state.steps ≤ steps → call size ⟨steps,cap⟩ program input = (result,state)

section
variable {size : Nat} {cap : Option Nat} {program : Program} {input : Bytes}

theorem call_of_load (loads : load program input = .ok loaded) (limits : Limits) :
    call size limits program input =
      (answer (loaded.run size limits Sink.silent ()),(loaded.run size limits Sink.silent ()).state) := by
  rw [call,run_of_load _ _ _ loads]
  rfl
/-- A program without a jump table is rejected whatever the limits. -/
theorem call_of_rejected {fault : BracketFault} (rejects : load program input = .error fault) (limits : Limits) :
    call size limits program input = (.error (.fault (Fault.ofBracket fault)),State.initial size) := by
  simp only [call,run,rejects,new]
/-- A call of an accepted program ends and leaves the state where its run stops. -/
theorem call_of_stopsAt {limits : Limits} (loads : load program input = .ok loaded) {n : Nat} {ending : Ending Empty}
    (stopsAt : (State.initial size).StopsAt loaded limits limits.steps n ending) :
    let last := (State.after loaded n (State.initial size)).stopped ending
    call size limits program input = (answerAt ending last,last) := by
  obtain ⟨result,left⟩ := (new size limits).run_of_stopsAt loads stopsAt
  exact Prod.ext result left

/-- A call names a bracket without a partner if the program has one, and only then. -/
theorem call_eq_bracket {limits : Limits} {fault : BracketFault} :
    (call size limits program input).1 = .error (.fault (Fault.ofBracket fault)) ↔
      Jumps.ofProgram program = .error fault :=
  run_eq_bracket (new size limits) Sink.silent ()

/-- A call gives what the run without a limit on steps gives. -/
theorem call_of_endsAt (loads : load program input = .ok loaded) {n : Nat} {ending : Ending Empty}
    (ends : EndsAt loaded cap (State.initial size) n ending) {steps : Nat} (enough : n + ending.begun ≤ steps) :
    let last := (State.after loaded n (State.initial size)).stopped ending
    call size ⟨steps,cap⟩ program input = (answerAt ending last,last) := by
  have resumes : Run.resume loaded ⟨steps,cap⟩ Sink.silent steps (State.initial size) () = _ :=
    EndsAt.resume_eq ends enough
  rw [call_of_load loads,Loaded.run,resumes]
  rfl

theorem steps_of_endsAt {n : Nat} {ending : Ending Empty} (ends : EndsAt loaded cap (State.initial size) n ending) :
    ((State.after loaded n (State.initial size)).stopped ending).steps = n + ending.begun := by
  rw [steps_stopped,steps_after ends.goes_of_lt]
  exact congrArg (· + ending.begun) (Nat.zero_add n)

/-- What a call gives for its last state depends on the store alone. -/
theorem answerAt_congr (ending : Ending Empty) {s t : State} (same : t.store = s.store) :
    answerAt ending t = answerAt ending s := by
  cases ending with
  | finished => exact congrArg (fun store => Except.ok store.output.toList) same
  | _ => rfl

theorem ends_of_endsAt (loads : load program input = .ok loaded) {n : Nat} {ending : Ending Empty}
    (ends : EndsAt loaded cap (State.initial size) n ending) :
    let last := (State.after loaded n (State.initial size)).stopped ending
    Ends size cap program input (answerAt ending last) last := by
  intro last steps enough
  rw [steps_of_endsAt ends] at enough
  exact call_of_endsAt loads ends enough

/-- A run that ends as another one and with the same store gives the same result. -/
theorem ends_of_store (loads : load program input = .ok loaded) {n : Nat} {ending : Ending Empty}
    (ends : EndsAt loaded cap (State.initial size) n ending) {other : State}
    (same : (State.after loaded n (State.initial size)).store = other.store) :
    let last := (State.after loaded n (State.initial size)).stopped ending
    Ends size cap program input (answerAt ending (other.stopped ending)) last ∧
      last.store = (other.stopped ending).store := by
  intro last
  have sameStore : last.store = (other.stopped ending).store := by rw [store_stopped,store_stopped,same]
  rw [← answerAt_congr ending sameStore]
  exact ⟨ends_of_endsAt loads ends,sameStore⟩

/-- A call that is not stopped by its limit on steps is a run that ends without it. -/
theorem exists_endsAt (loads : load program input = .ok loaded) {limits : Limits}
    (unlimited : (call size limits program input).1 ≠ .error (.fault (.stepLimit (.ofNat limits.steps)))) :
    ∃ n ending, EndsAt loaded limits.output (State.initial size) n ending ∧
      n + ending.begun ≤ limits.steps := by
  rw [call_of_load loads] at unlimited
  apply EndsAt.of_resume
  intro stopped
  apply unlimited
  simp only [Loaded.run,answer,stopped]

theorem Ends.unique {result another : Except (Halt Empty) Bytes} {state other : State}
    (ends : Ends size cap program input result state) (endsToo : Ends size cap program input another other) :
    result = another ∧ state = other := by
  have first := ends (max state.steps other.steps) (Nat.le_max_left ..)
  have second := endsToo (max state.steps other.steps) (Nat.le_max_right ..)
  exact Prod.mk.inj (first.symm.trans second)

/-- A call that is not stopped by its limit on steps gives what it gives without that limit. -/
theorem ends_of_call (loads : load program input = .ok loaded) {steps : Nat}
    (unlimited : (call size ⟨steps,cap⟩ program input).1 ≠ .error (.fault (.stepLimit (.ofNat steps)))) :
    Ends size cap program input (call size ⟨steps,cap⟩ program input).1 (call size ⟨steps,cap⟩ program input).2 ∧
      (call size ⟨steps,cap⟩ program input).2.steps ≤ steps := by
  obtain ⟨n,ending,endsAt,enough⟩ := exists_endsAt loads unlimited
  rw [call_of_endsAt loads endsAt enough]
  exact ⟨ends_of_endsAt loads endsAt,Nat.le_trans (Nat.le_of_eq (steps_of_endsAt endsAt)) enough⟩

/-- What a call gives without a limit on its steps is the ending and the last state of the run without it. -/
theorem Ends.exists_endsAt (loads : load program input = .ok loaded) {result : Except (Halt Empty) Bytes}
    {state : State} (ends : Ends size cap program input result state) :
    ∃ n ending, EndsAt loaded cap (State.initial size) n ending ∧
      let last := (State.after loaded n (State.initial size)).stopped ending
      result = answerAt ending last ∧ state = last := by
  -- No result is that of a limit on steps for two different limits.
  have passes : ∃ steps, state.steps ≤ steps ∧ result ≠ .error (.fault (.stepLimit (.ofNat steps))) := by
    by_cases stopped : result = .error (.fault (.stepLimit (.ofNat state.steps)))
    · refine ⟨state.steps + 1,Nat.le_succ _,?_⟩
      simp only [stopped,ne_eq,Except.error.injEq,Halt.fault.injEq,Fault.stepLimit.injEq,Int.ofNat.injEq]
      omega
    · exact ⟨state.steps,Nat.le_refl _,stopped⟩
  obtain ⟨steps,allowed,unlimited⟩ := passes
  have same : (call size ⟨steps,cap⟩ program input).1 = result := congrArg Prod.fst (ends steps allowed)
  rw [← same] at unlimited
  obtain ⟨n,ending,endsAt,-⟩ := Machine.exists_endsAt loads unlimited
  have given := ends (max state.steps (n + ending.begun)) (Nat.le_max_left ..)
  rw [call_of_endsAt loads endsAt (Nat.le_max_right ..)] at given
  obtain ⟨sameResult,sameState⟩ := Prod.mk.inj given
  exact ⟨n,ending,endsAt,sameResult.symm,sameState.symm⟩

end

end Machine

end TapeArena
