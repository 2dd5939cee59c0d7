import Mathlib.Data.ENat.Lattice
import TapeArena.Proofs.Cut

/-!
Both limits only cut the run without limits, and exactly where they say. The run without limits has a
duration and, for a cap, a step that would write the first byte beyond the cap; either is infinite if it
never comes. Comparing these two with the allowed number of steps tells how a limited run ends and in which
state (`run_cut`).
-/
namespace TapeArena
variable {loaded : Loaded} {limits : Limits} {s : State}

namespace State

/-- The number of steps of the run without limits; infinite if it never ends. -/
noncomputable def duration (loaded : Loaded) (s : State) : ℕ∞ :=
  ⨅ (n : ℕ) (_ : (after loaded n s).next loaded = none), (n : ℕ∞)
/-- The number of the step that would write the first byte beyond a cap, counted from one; infinite if no
    step does. -/
noncomputable def overflow (loaded : Loaded) (cap : Option Nat) (s : State) : ℕ∞ :=
  ⨅ (n : ℕ) (_ : (after loaded n s).next loaded = some .output ∧ cap = some (performed loaded .output n s)),
    ((n + 1 : ℕ) : ℕ∞)

theorem duration_eq {n : Nat} (goes : Goes loaded n s) (ended : (after loaded n s).next loaded = none) :
    s.duration loaded = n := by
  apply le_antisymm
  · exact iInf₂_le n ended
  · refine le_iInf₂ fun m endedThere => ?_
    by_contra before
    obtain ⟨command,here⟩ := goes m (by exact_mod_cast not_le.mp before)
    rw [endedThere] at here
    cases here
theorem lt_duration {n : Nat} {command : Command} (here : (after loaded n s).next loaded = some command) :
    (n : ℕ∞) < s.duration loaded := by
  have beyond : ((n + 1 : ℕ) : ℕ∞) ≤ s.duration loaded := by
    refine le_iInf₂ fun m ended => ?_
    have later : n < m := by
      by_contra before
      have endedHere := ended_of_le (Nat.le_of_not_lt before) ended
      rw [here] at endedHere
      cases endedHere
    exact_mod_cast later
  exact lt_of_lt_of_le (by exact_mod_cast Nat.lt_succ_self n) beyond

theorem overflow_eq {n : Nat} (writing : (after loaded n s).next loaded = some .output) :
    s.overflow loaded (some (performed loaded .output n s)) = (n + 1 : ℕ) := by
  apply le_antisymm
  · exact iInf₂_le n ⟨writing,rfl⟩
  · refine le_iInf₂ fun m beyond => ?_
    obtain ⟨writingThere,same⟩ := beyond
    rcases Nat.lt_trichotomy m n with before | rfl | behind
    · have fewer := performed_lt before writingThere
      have equal := Option.some.inj same
      omega
    · exact le_refl _
    · exact_mod_cast Nat.succ_le_succ (Nat.le_of_lt behind)
/-- No step before the `n`-th writes a byte beyond the cap. -/
theorem lt_overflow {cap : Option Nat} {n : Nat}
    (within : ∀ i < n, (after loaded i s).next loaded = some .output →
      ∀ most, cap = some most → performed loaded .output i s < most) :
    (n : ℕ∞) < s.overflow loaded cap := by
  have beyond : ((n + 1 : ℕ) : ℕ∞) ≤ s.overflow loaded cap := by
    refine le_iInf₂ fun m found => ?_
    obtain ⟨writing,same⟩ := found
    have later : n ≤ m := by
      by_contra before
      exact Nat.lt_irrefl _ (within m (Nat.lt_of_not_le before) writing _ same)
    exact_mod_cast Nat.succ_le_succ later
  exact lt_of_lt_of_le (by exact_mod_cast Nat.lt_succ_self n) beyond
/-- A run that ends without writing a byte beyond the cap never does. -/
theorem overflow_eq_top {cap : Option Nat} {n : Nat} (ended : (after loaded n s).next loaded = none)
    (within : ∀ i < n, (after loaded i s).next loaded = some .output →
      ∀ most, cap = some most → performed loaded .output i s < most) :
    s.overflow loaded cap = ⊤ := by
  refine top_le_iff.mp (le_iInf₂ fun m found => ?_)
  obtain ⟨writing,same⟩ := found
  by_cases before : m < n
  · exact absurd (within m before writing _ same) (Nat.lt_irrefl _)
  · have endedThere := ended_of_le (Nat.le_of_not_lt before) ended
    rw [writing] at endedThere
    cases endedThere

end State

/-! ### Runs that start with an empty output -/

namespace State.StopsAt
variable {allowed n : Nat} {ending : Ending Empty}

/-- A step that is taken and writes stays within the cap. -/
theorem performed_lt_cap (stopsAt : StopsAt loaded limits allowed s n ending) (fresh : s.store.writes = 0)
    {i : Nat} (lt : i < n) (writing : (after loaded i s).next loaded = some .output) {cap : Nat}
    (capped : limits.output = some cap) : performed loaded .output i s < cap := by
  have within := (of_stop?_none (stopsAt.goes i lt)).2.2 writing cap capped
  rwa [writes_after,fresh,Nat.zero_add] at within
theorem performed_le_cap (stopsAt : StopsAt loaded limits allowed s n ending) (fresh : s.store.writes = 0)
    {cap : Nat} (capped : limits.output = some cap) {i : Nat} (le : i ≤ n) :
    performed loaded .output i s ≤ cap := by
  induction i with
  | zero => exact Nat.zero_le cap
  | succ i ih =>
    by_cases writing : (after loaded i s).next loaded = some .output
    · rw [performed_succ_self writing]
      exact stopsAt.performed_lt_cap fresh le writing capped
    · rw [performed_succ_other writing]
      exact ih (Nat.le_of_succ_le le)

/-- A run that ends on its own has the duration of the run without limits, which never exceeds the cap. -/
theorem of_finished (stopsAt : StopsAt loaded limits allowed s n .finished) (fresh : s.store.writes = 0) :
    s.duration loaded = n ∧ s.overflow loaded limits.output = ⊤ := by
  have ended := of_stop?_finished stopsAt.stops
  refine ⟨duration_eq stopsAt.goes_of_lt ended,overflow_eq_top ended ?_⟩
  intro i lt writing cap capped
  exact stopsAt.performed_lt_cap fresh lt writing capped
/-- A run that stops at the limit on steps took all of them, and neither the end nor the cap was reached. -/
theorem of_stepLimit {limit : Nat} (stopsAt : StopsAt loaded limits allowed s n (.stepLimit limit))
    (fresh : s.store.writes = 0) :
    n = allowed ∧ limit = limits.steps ∧ (n : ℕ∞) < s.duration loaded ∧
      (n : ℕ∞) < s.overflow loaded limits.output := by
  obtain ⟨isLimit,noneLeft,command,here⟩ := of_stop?_stepLimit stopsAt.stops
  have le := stopsAt.le_allowed
  refine ⟨by omega,isLimit,lt_duration here,lt_overflow ?_⟩
  intro i lt writing cap capped
  exact stopsAt.performed_lt_cap fresh lt writing capped
/-- A run that stops at the cap has filled it, and would exceed it with the next step. -/
theorem of_outputLimit {cap : Nat} (stopsAt : StopsAt loaded limits allowed s n (.outputLimit cap))
    (fresh : s.store.writes = 0) :
    n < allowed ∧ limits.output = some cap ∧ (after loaded n s).store.writes = cap ∧
      s.overflow loaded limits.output = (n + 1 : ℕ) := by
  obtain ⟨writing,some_left,capped,reached⟩ := of_stop?_outputLimit stopsAt.stops
  have filled : (after loaded n s).store.writes = cap := by
    have le_cap := stopsAt.performed_le_cap fresh capped (Nat.le_refl n)
    rw [writes_after,fresh,Nat.zero_add] at reached ⊢
    exact Nat.le_antisymm le_cap reached
  refine ⟨by omega,capped,filled,?_⟩
  rw [writes_after,fresh,Nat.zero_add] at filled
  rw [capped,← filled]
  exact overflow_eq writing

end State.StopsAt

/-! ### How a limited run ends -/

namespace Machine

/-- The three ways in which a limited run ends. -/
theorem run_cases (machine : Machine) {program : Program} {input : Bytes}
    (loads : load program input = .ok loaded) :
    let start := State.initial machine.size
    let allowed := machine.limits.steps
    let duration := start.duration loaded
    let overflow := start.overflow loaded machine.limits.output
    let ran := machine.run Sink.silent () program input
    (∃ n : ℕ, overflow = (n + 1 : ℕ) ∧ n < allowed ∧ ∃ cap, machine.limits.output = some cap ∧
      (State.after loaded n start).store.writes = cap ∧
      ran.1 = .error (.fault (.outputLimit (.ofNat cap))) ∧
      ran.2.1.state = { State.after loaded n start with steps := n + 1 }) ∨
    (∃ n : ℕ, duration = n ∧ n ≤ allowed ∧ overflow = ⊤ ∧ (State.after loaded n start).steps = n ∧
      ran.1 = .ok (State.after loaded n start).store.output.toList ∧
      ran.2.1.state = State.after loaded n start) ∨
    (allowed < duration ∧ allowed < overflow ∧ (State.after loaded allowed start).steps = allowed ∧
      ran.1 = .error (.fault (.stepLimit (.ofNat allowed))) ∧
      ran.2.1.state = State.after loaded allowed start) := by
  intro start allowed duration overflow ran
  have fresh : start.store.writes = 0 := rfl
  obtain ⟨n,ending,stopsAt,steps,resultIs,stateIs⟩ := machine.exists_run loads
  cases ending with
  | finished =>
    obtain ⟨isDuration,never⟩ := stopsAt.of_finished fresh
    exact .inr (.inl ⟨n,isDuration,stopsAt.le_allowed,never,steps,resultIs,stateIs⟩)
  | stepLimit limit =>
    obtain ⟨rfl,rfl,beforeEnd,beforeOverflow⟩ := stopsAt.of_stepLimit fresh
    exact .inr (.inr ⟨beforeEnd,beforeOverflow,steps,resultIs,stateIs⟩)
  | outputLimit cap =>
    obtain ⟨lt,capped,filled,isOverflow⟩ := stopsAt.of_outputLimit fresh
    refine .inl ⟨n,isOverflow,lt,cap,capped,filled,resultIs,stateIs.trans ?_⟩
    rw [State.stopped,State.refuse,steps]
  | refused reason => exact reason.elim

/-- A run that exceeds its cap has filled it. -/
theorem writes_of_outputLimit (machine : Machine) {program : Program} {input : Bytes} {cap : Nat}
    (loads : load program input = .ok loaded)
    (exceeded : (machine.run Sink.silent () program input).1 = .error (.fault (.outputLimit (.ofNat cap)))) :
    machine.limits.output = some cap ∧
      (machine.run Sink.silent () program input).2.1.state.store.writes = cap := by
  rcases machine.run_cases loads with
    ⟨n,-,-,most,capped,filled,result,left⟩ | ⟨n,-,-,-,-,result,-⟩ | ⟨-,-,-,result,-⟩
  · cases result.symm.trans exceeded
    rw [left]
    exact ⟨capped,filled⟩
  · cases result.symm.trans exceeded
  · cases result.symm.trans exceeded

section
variable (machine : Machine) {program : Program} {input : Bytes}

/-- A run whose overflow comes within the allowed steps fills its cap and exceeds it with the next step. -/
theorem run_of_overflow (loads : load program input = .ok loaded)
    (within : (State.initial machine.size).overflow loaded machine.limits.output ≤ machine.limits.steps) :
    let start := State.initial machine.size
    let ran := machine.run Sink.silent () program input
    ∃ n : ℕ, start.overflow loaded machine.limits.output = (n + 1 : ℕ) ∧
      ∃ cap, machine.limits.output = some cap ∧ (State.after loaded n start).store.writes = cap ∧
        ran.1 = .error (.fault (.outputLimit (.ofNat cap))) ∧
        ran.2.1.state = { State.after loaded n start with steps := n + 1 } := by
  rcases machine.run_cases loads with ⟨n,isOverflow,-,exceeds⟩ | ⟨-,-,-,never,-⟩ | ⟨-,beyond,-⟩
  · exact ⟨n,isOverflow,exceeds⟩
  · rw [never] at within
    exact absurd within (not_le.mpr (ENat.natCast_lt_top _))
  · exact absurd within (not_le.mpr beyond)

/-- A run that ends within the allowed steps and never exceeds its cap returns the whole output. -/
theorem run_of_duration (loads : load program input = .ok loaded)
    (within : (State.initial machine.size).duration loaded ≤ machine.limits.steps)
    (never : (State.initial machine.size).overflow loaded machine.limits.output = ⊤) :
    let start := State.initial machine.size
    let ran := machine.run Sink.silent () program input
    ∃ n : ℕ, start.duration loaded = n ∧ (State.after loaded n start).steps = n ∧
      ran.1 = .ok (State.after loaded n start).store.output.toList ∧
      ran.2.1.state = State.after loaded n start := by
  rcases machine.run_cases loads with ⟨n,isOverflow,-⟩ | ⟨n,isDuration,-,-,returns⟩ | ⟨unfinished,-⟩
  · exact absurd (isOverflow.symm.trans never) (ENat.natCast_ne_top _)
  · exact ⟨n,isDuration,returns⟩
  · exact absurd within (not_le.mpr unfinished)

/-- Any other run takes all the allowed steps and stops at the limit on steps. -/
theorem run_of_neither (loads : load program input = .ok loaded) :
    let start := State.initial machine.size
    let allowed := machine.limits.steps
    let overflow := start.overflow loaded machine.limits.output
    let ran := machine.run Sink.silent () program input
    ¬ overflow ≤ allowed → ¬ (start.duration loaded ≤ allowed ∧ overflow = ⊤) →
      (State.after loaded allowed start).steps = allowed ∧
        ran.1 = .error (.fault (.stepLimit (.ofNat allowed))) ∧
        ran.2.1.state = State.after loaded allowed start := by
  intro start allowed overflow ran beyond unfinished
  rcases machine.run_cases loads with ⟨n,isOverflow,lt,-⟩ | ⟨n,isDuration,le,never,-⟩ | ⟨-,-,stops⟩
  · exact absurd (isOverflow.trans_le (by exact_mod_cast lt)) beyond
  · exact absurd ⟨isDuration.trans_le (by exact_mod_cast le),never⟩ unfinished
  · exact stops

end

/-- A limited run exceeds its cap if the step that would do so comes within the allowed steps; it returns if
    the run without limits ends within them and never exceeds the cap; otherwise it stops at the limit on
    steps. In each case it leaves the state of the run without limits at that moment. -/
theorem run_cut (machine : Machine) {program : Program} {input : Bytes}
    (loads : load program input = .ok loaded) :
    let start := State.initial machine.size
    let allowed := machine.limits.steps
    let duration := start.duration loaded
    let overflow := start.overflow loaded machine.limits.output
    let ran := machine.run Sink.silent () program input
    let state := ran.2.1.state
    ((∃ cap, machine.limits.output = some cap ∧ ran.1 = .error (.fault (.outputLimit (.ofNat cap)))) ↔
      overflow ≤ allowed) ∧
    (∀ n : ℕ, overflow = (n + 1 : ℕ) → overflow ≤ allowed →
      state = { State.after loaded n start with steps := n + 1 } ∧
        machine.limits.output = some state.store.writes) ∧
    ((∃ bytes, ran.1 = .ok bytes) ↔ duration ≤ allowed ∧ overflow = ⊤) ∧
    (∀ n : ℕ, duration = n → duration ≤ allowed → overflow = ⊤ →
      ran.1 = .ok (State.after loaded n start).store.output.toList ∧
        state = State.after loaded n start ∧ state.steps = n) ∧
    (ran.1 = .error (.fault (.stepLimit (.ofNat allowed))) ↔
      ¬ overflow ≤ allowed ∧ ¬ (duration ≤ allowed ∧ overflow = ⊤)) ∧
    (¬ overflow ≤ allowed → ¬ (duration ≤ allowed ∧ overflow = ⊤) →
      state = State.after loaded allowed start ∧ state.steps = allowed) := by
  intro start allowed duration overflow ran state
  have exceeds := machine.run_of_overflow loads
  have returns := machine.run_of_duration loads
  have stops := machine.run_of_neither loads
  refine ⟨⟨?_,?_⟩,?_,⟨?_,?_⟩,?_,⟨?_,?_⟩,?_⟩
  · rintro ⟨cap,-,exceeded⟩
    by_contra beyond
    by_cases finished : duration ≤ allowed ∧ overflow = ⊤
    · obtain ⟨n,-,-,result,-⟩ := returns finished.1 finished.2
      cases result.symm.trans exceeded
    · obtain ⟨-,result,-⟩ := stops beyond finished
      cases result.symm.trans exceeded
  · intro within
    obtain ⟨n,-,cap,capped,-,result,-⟩ := exceeds within
    exact ⟨cap,capped,result⟩
  · intro n isOverflow within
    obtain ⟨m,isOverflowToo,cap,capped,filled,-,left⟩ := exceeds within
    have same : n + 1 = m + 1 := by exact_mod_cast isOverflow.symm.trans isOverflowToo
    obtain rfl : n = m := Nat.succ.inj same
    have stateIs : state = { State.after loaded n start with steps := n + 1 } := left
    refine ⟨stateIs,?_⟩
    rw [stateIs]
    exact capped.trans (congrArg some filled.symm)
  · rintro ⟨bytes,returned⟩
    -- The cap is tested before the run can end, so it is ruled out first.
    have beyond : ¬ overflow ≤ allowed := by
      intro within
      obtain ⟨n,-,cap,-,-,result,-⟩ := exceeds within
      cases result.symm.trans returned
    by_contra unfinished
    obtain ⟨-,result,-⟩ := stops beyond unfinished
    cases result.symm.trans returned
  · rintro ⟨within,never⟩
    obtain ⟨n,-,-,result,-⟩ := returns within never
    exact ⟨_,result⟩
  · intro n isDuration within never
    obtain ⟨m,isDurationToo,steps,result,left⟩ := returns within never
    obtain rfl : n = m := by exact_mod_cast isDuration.symm.trans isDurationToo
    exact ⟨result,left,(congrArg State.steps left).trans steps⟩
  · intro stopped
    constructor
    · intro within
      obtain ⟨n,-,cap,-,-,result,-⟩ := exceeds within
      cases result.symm.trans stopped
    · rintro ⟨within,never⟩
      obtain ⟨n,-,-,result,-⟩ := returns within never
      cases result.symm.trans stopped
  · rintro ⟨beyond,unfinished⟩
    exact (stops beyond unfinished).2.1
  · intro beyond unfinished
    obtain ⟨steps,-,left⟩ := stops beyond unfinished
    exact ⟨left,(congrArg State.steps left).trans steps⟩

/-- A loop that writes forever: its third byte comes with the seventh step. -/
theorem run_cut_endless :
    let endless : Program := [.increment,.loopOpen,.output,.loopClose]
    let loaded : Loaded := ⟨endless.toArray,#[none,some 3,none,some 1],#[]⟩
    load endless [] = .ok loaded ∧ (State.initial 2).overflow loaded (some 2) ≤ (7 : ℕ) ∧
      ¬ (State.initial 2).overflow loaded (some 2) ≤ (6 : ℕ) := by
  intro endless loaded
  have loads : load endless [] = .ok loaded := rfl
  refine ⟨loads,?_,?_⟩
  · exact (run_cut ⟨2,⟨7,some 2⟩,State.initial 2⟩ loads).1.mp ⟨2,rfl,by decide⟩
  · exact ((run_cut ⟨2,⟨6,some 2⟩,State.initial 2⟩ loads).2.2.2.2.1.mp (by decide)).1

end Machine

end TapeArena
