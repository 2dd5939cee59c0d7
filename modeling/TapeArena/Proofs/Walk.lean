import TapeArena.Proofs.Nesting
import TapeArena.Proofs.Sinks

/-!
The machine and the walk through nested commands. The bound on the rounds of a loop never shows: a loop whose
cell is not zero walks through its body, takes the step of the closing test and is met again
(`rounds_again`). What the machine does from the position of some nested commands on is the walk through
them, followed by what it does from the position behind them (`onFrom_trees`). So a program whose brackets
match gives the same by running and by walking (`run_eq_walk`).
-/
namespace TapeArena

namespace Tree.Walk
variable {limits : Limits} {store : Store} {steps : Nat}

/-- A walk that would have to take one step too many. -/
def outOfSteps (limits : Limits) (store : Store) (steps : Nat) : Walk :=
  ⟨some (.stepLimit (.ofNat limits.steps)),store,steps⟩

@[simp] theorem goesOn_andThen (part : Store → Nat → Walk) :
    (goesOn store steps).andThen part = part store steps := rfl
@[simp] theorem outOfSteps_andThen (part : Store → Nat → Walk) :
    (outOfSteps limits store steps).andThen part = outOfSteps limits store steps := rfl
theorem andThen_goesOn (walk : Walk) : walk.andThen goesOn = walk := by
  obtain ⟨stopped,store,steps⟩ := walk
  cases stopped <;> rfl
theorem andThen_assoc (walk : Walk) (first second : Store → Nat → Walk) :
    (walk.andThen first).andThen second =
      walk.andThen fun store steps => (first store steps).andThen second := by
  unfold andThen
  cases stopped : walk.stopped with
  | none => rfl
  | some fault => simp only [stopped]
/-- Two ways to go on are the same if they are the same where the walk goes on. -/
theorem andThen_congr {walk : Walk} {first second : Store → Nat → Walk}
    (same : first walk.store walk.steps = second walk.store walk.steps) :
    walk.andThen first = walk.andThen second := by
  unfold andThen
  cases walk.stopped with
  | none => exact same
  | some fault => rfl

theorem step_spent (spent : limits.steps ≤ steps) (part : Nat → Walk) :
    step limits store steps part = outOfSteps limits store steps := by
  rw [step,if_pos spent]
  rfl
theorem step_left (left : steps < limits.steps) (part : Nat → Walk) :
    step limits store steps part = part (steps + 1) := by
  rw [step,if_neg (Nat.not_le_of_lt left)]
theorem step_andThen (part : Nat → Walk) (next : Store → Nat → Walk) :
    (step limits store steps part).andThen next =
      step limits store steps fun steps => (part steps).andThen next := by
  by_cases spent : limits.steps ≤ steps
  · simp only [step_spent spent,outOfSteps_andThen]
  · simp only [step_left (Nat.lt_of_not_le spent)]
/-- Two ways to go on behind a step are the same if they are the same where the step is taken. -/
theorem step_congr {first second : Nat → Walk} (same : steps < limits.steps → first (steps + 1) = second (steps + 1)) :
    step limits store steps first = step limits store steps second := by
  by_cases spent : limits.steps ≤ steps
  · rw [step_spent spent,step_spent spent]
  · rw [step_left (Nat.lt_of_not_le spent),step_left (Nat.lt_of_not_le spent),same (Nat.lt_of_not_le spent)]

/-! ### Rounds of a loop -/

/-- A part of a walk that counts its steps: it never goes back, and where no step is left it either is empty
    or stops. -/
structure Counts (limits : Limits) (part : Store → Nat → Walk) : Prop where
  forward : ∀ store steps, steps ≤ (part store steps).steps
  spent : ∀ store steps, limits.steps ≤ steps →
    part store steps = goesOn store steps ∨ part store steps = outOfSteps limits store steps

theorem forward_andThen {walk : Walk} {part : Store → Nat → Walk} (before : steps ≤ walk.steps)
    (forward : ∀ store steps, steps ≤ (part store steps).steps) : steps ≤ (walk.andThen part).steps := by
  unfold andThen
  cases walk.stopped with
  | none => exact Nat.le_trans before (forward walk.store walk.steps)
  | some fault => exact before
theorem forward_step {part : Nat → Walk} (forward : steps + 1 ≤ (part (steps + 1)).steps) :
    steps ≤ (step limits store steps part).steps := by
  by_cases spent : limits.steps ≤ steps
  · rw [step_spent spent]
    exact Nat.le_refl steps
  · rw [step_left (Nat.lt_of_not_le spent)]
    exact Nat.le_of_succ_le forward

variable {body : Store → Nat → Walk}

theorem Counts.rounds_forward (counts : Counts limits body) (left : Nat) (store : Store) (steps : Nat) :
    steps ≤ (rounds limits body left store steps).steps := by
  induction left generalizing store steps with
  | zero => exact Nat.le_refl steps
  | succ left ih =>
    refine forward_andThen (counts.forward store steps) fun store steps => forward_step ?_
    split
    · exact Nat.le_refl _
    · exact ih store (steps + 1)
theorem Counts.rounds_spent (counts : Counts limits body) (spent : limits.steps ≤ steps) (left : Nat) :
    rounds limits body left store steps = outOfSteps limits store steps := by
  cases left with
  | zero => rfl
  | succ left =>
    rw [rounds]
    rcases counts.spent store steps spent with passes | stops
    · rw [passes,goesOn_andThen,step_spent spent]
    · rw [stops,outOfSteps_andThen]

/-- More rounds than there are steps left make no difference. -/
theorem Counts.rounds_enough (counts : Counts limits body) {few many : Nat}
    (enough : limits.steps - steps ≤ few) (more : limits.steps - steps ≤ many) :
    rounds limits body few store steps = rounds limits body many store steps := by
  induction few generalizing many store steps with
  | zero =>
    rw [counts.rounds_spent (by omega),counts.rounds_spent (by omega)]
  | succ few ih =>
    cases many with
    | zero => rw [counts.rounds_spent (by omega),counts.rounds_spent (by omega)]
    | succ many =>
      refine andThen_congr (step_congr fun left => ?_)
      have forward := counts.forward store steps
      split
      · rfl
      · exact ih (by omega) (by omega)

/-- The equation of a loop whose cell is not zero. -/
theorem Counts.rounds_again (counts : Counts limits body) (store : Store) (steps : Nat) :
    rounds limits body (limits.steps - steps) store steps =
      (body store steps).andThen fun store steps =>
        step limits store steps fun steps =>
          if store.current = 0 then goesOn store steps
          else rounds limits body (limits.steps - steps) store steps := by
  rw [counts.rounds_enough (Nat.le_refl _) (Nat.le_succ (limits.steps - steps)),rounds]
  refine andThen_congr (step_congr fun left => ?_)
  have forward := counts.forward store steps
  split
  · rfl
  · exact counts.rounds_enough (by omega) (Nat.le_refl _)

end Tree.Walk

namespace Tree
open Walk
variable {limits : Limits} {input : Array UInt8}

theorem walkAll_leaf (command : Command) (rest : List Tree) (store : Store) (steps : Nat) :
    walkAll limits input (.leaf command :: rest) store steps =
      (Walk.command limits input command store steps).andThen (walkAll limits input rest) := by
  rw [walkAll,walk]
theorem walkAll_loop (body rest : List Tree) (store : Store) (steps : Nat) :
    walkAll limits input (.loop body :: rest) store steps =
      (Walk.step limits store steps fun steps =>
        if store.current = 0 then goesOn store steps
        else rounds limits (walkAll limits input body) (limits.steps - steps) store steps).andThen
          (walkAll limits input rest) := by
  rw [walkAll,walk]

theorem counts_walkAll (limits : Limits) (input : Array UInt8) (trees : List Tree) :
    Counts limits (walkAll limits input trees) := by
  induction trees using induction_trees with
  | nil => exact ⟨fun _ _ => by rw [walkAll]; exact Nat.le_refl _,fun _ _ _ => .inl (by rw [walkAll])⟩
  | leaf command rest ih =>
    constructor
    · intro store steps
      rw [walkAll_leaf]
      refine forward_andThen (forward_step ?_) ih.forward
      split <;> exact Nat.le_refl _
    · intro store steps spent
      rw [walkAll_leaf,Walk.command,step_spent spent]
      exact .inr rfl
  | loop body rest ihBody ihRest =>
    constructor
    · intro store steps
      rw [walkAll_loop]
      refine forward_andThen (forward_step ?_) ihRest.forward
      split
      · exact Nat.le_refl _
      · exact ihBody.rounds_forward _ store (steps + 1)
    · intro store steps spent
      rw [walkAll_loop,step_spent spent]
      exact .inr rfl

end Tree

/-! ### Parts of a program -/

/-- A part of a program stands at a position of the code. -/
def Stands (code : Array Command) (i : Nat) (part : Program) : Prop :=
  ∀ k < part.length, code[i + k]? = part[k]?

namespace Stands
variable {code : Array Command} {i : Nat} {command : Command} {first second rest : Program}

theorem head (stands : Stands code i (command :: rest)) : code[i]? = some command :=
  stands 0 (Nat.succ_pos _)
theorem tail (stands : Stands code i (command :: rest)) : Stands code (i + 1) rest := by
  intro k lt
  have shifted := stands (k + 1) (Nat.succ_lt_succ lt)
  rwa [show i + (k + 1) = i + 1 + k by omega] at shifted
theorem append_left (stands : Stands code i (first ++ second)) : Stands code i first := by
  intro k lt
  rw [stands k (by rw [List.length_append]; omega),List.getElem?_append_left lt]
theorem append_right (stands : Stands code i (first ++ second)) : Stands code (i + first.length) second := by
  intro k lt
  have shifted := stands (first.length + k) (by rw [List.length_append]; omega)
  rwa [List.getElem?_append_right (Nat.le_add_right ..),Nat.add_sub_cancel_left,← Nat.add_assoc] at shifted

end Stands

/-! ### The machine from a position on -/

namespace Tree
open Walk
variable {loaded : Loaded} {limits : Limits} {i : Nat} {command : Command}

/-- A run without a sink as a walk. -/
def Walk.ofRun (run : Run Unit Empty) : Walk where
  stopped :=
    match run.ending with
    | .finished => none
    | .stepLimit limit => some (.stepLimit (.ofNat limit))
    | .outputLimit cap => some (.outputLimit (.ofNat cap))
  store := run.state.store
  steps := run.state.steps

/-- What the machine does from a position on. -/
def onFrom (loaded : Loaded) (limits : Limits) (i : Nat) (store : Store) (steps : Nat) : Walk :=
  Walk.ofRun (Run.resume loaded limits Sink.silent (limits.steps - steps) ⟨store,i,steps⟩ ())

theorem onFrom_end (ended : loaded.code[i]? = none) (store : Store) (steps : Nat) :
    onFrom loaded limits i store steps = goesOn store steps := by
  have endedToo : (⟨store,i,steps⟩ : State).next loaded = none := ended
  rw [onFrom,Run.resume_stop Sink.silent () (State.stop?_of_ended endedToo _)]
  rfl

theorem onFrom_spent {steps : Nat} (here : loaded.code[i]? = some command) (spent : limits.steps ≤ steps)
    (store : Store) : onFrom loaded limits i store steps = outOfSteps limits store steps := by
  have hereToo : (⟨store,i,steps⟩ : State).next loaded = some command := here
  rw [onFrom,Nat.sub_eq_zero_of_le spent,Run.resume_stop Sink.silent () (State.stop?_zero hereToo)]
  rfl

/-- A command that writes nothing takes its step, and the machine goes on from where it lands. -/
theorem onFrom_other (here : loaded.code[i]? = some command) (other : command ≠ .output) (store : Store)
    (steps : Nat) :
    onFrom loaded limits i store steps =
      Walk.step limits store steps fun after =>
        onFrom loaded limits ((⟨store,i,steps⟩ : State).landing loaded command + 1)
          (store.perform loaded.input command) after := by
  by_cases spent : limits.steps ≤ steps
  · rw [onFrom_spent here spent,step_spent spent]
  · have hereToo : (⟨store,i,steps⟩ : State).next loaded = some command := here
    have allowed : limits.steps - steps = limits.steps - (steps + 1) + 1 := by omega
    rw [step_left (Nat.lt_of_not_le spent),onFrom,allowed,Run.resume_other Sink.silent () hereToo other,
      State.step_of_next hereToo]
    rfl

/-- A byte within the cap takes its step, and the machine goes on behind it. -/
theorem onFrom_output (here : loaded.code[i]? = some .output) (store : Store) (steps : Nat) :
    onFrom loaded limits i store steps =
      Walk.step limits store steps fun after =>
        match limits.reached? store.writes with
        | some cap => ⟨some (.outputLimit (.ofNat cap)),store,after⟩
        | none => onFrom loaded limits (i + 1) store.write after := by
  by_cases spent : limits.steps ≤ steps
  · rw [onFrom_spent here spent,step_spent spent]
  · have hereToo : (⟨store,i,steps⟩ : State).next loaded = some .output := here
    have allowed : limits.steps - steps = limits.steps - (steps + 1) + 1 := by omega
    have stop : (⟨store,i,steps⟩ : State).stop? loaded limits (limits.steps - (steps + 1) + 1) = _ :=
      State.stop?_output hereToo (limits.steps - (steps + 1))
    rw [step_left (Nat.lt_of_not_le spent),onFrom,allowed]
    cases reached : limits.reached? store.writes with
    | some cap =>
      rw [reached] at stop
      rw [Run.resume_stop Sink.silent () stop]
      rfl
    | none =>
      rw [reached] at stop
      rw [Run.resume_go stop,State.step_of_next hereToo]
      rfl

/-- A single command does the same in a walk. -/
theorem onFrom_leaf (here : loaded.code[i]? = some command) (notOpen : command ≠ .loopOpen)
    (notClose : command ≠ .loopClose) (store : Store) (steps : Nat) :
    onFrom loaded limits i store steps =
      (Walk.command limits loaded.input command store steps).andThen (onFrom loaded limits (i + 1)) := by
  rw [Walk.command,step_andThen]
  by_cases writing : command = .output
  · subst writing
    rw [onFrom_output here]
    refine step_congr fun _ => ?_
    simp only [if_true]
    cases limits.reached? store.writes with
    | some cap => rfl
    | none => rfl
  · have lands : (⟨store,i,steps⟩ : State).landing loaded command = i := by
      cases command with
      | loopOpen => exact absurd rfl notOpen
      | loopClose => exact absurd rfl notClose
      | _ => rfl
    rw [onFrom_other here writing,lands]
    simp only [writing,if_false,goesOn_andThen]

/-- A bracket takes its step, and the machine goes on behind one position if the cell is zero and behind
    another one otherwise. -/
theorem onFrom_bracket {ifZero otherwise : Nat} (here : loaded.code[i]? = some command)
    (bracket : command = .loopOpen ∨ command = .loopClose) {store : Store} {steps : Nat}
    (lands : (⟨store,i,steps⟩ : State).landing loaded command = if store.current = 0 then ifZero else otherwise) :
    onFrom loaded limits i store steps =
      Walk.step limits store steps fun steps =>
        if store.current = 0 then onFrom loaded limits (ifZero + 1) store steps
        else onFrom loaded limits (otherwise + 1) store steps := by
  have other : command ≠ .output := by
    rcases bracket with rfl | rfl <;> decide
  have same : store.perform loaded.input command = store := by
    rcases bracket with rfl | rfl <;> rfl
  rw [onFrom_other here other,lands,same]
  refine step_congr fun _ => ?_
  split <;> rfl
/-- An opening bracket leads behind the loop if the cell is zero, and into the loop otherwise. -/
theorem onFrom_open {close : Nat} (here : loaded.code[i]? = some .loopOpen)
    (joined : loaded.jumps[i]? = some (some close)) (store : Store) (steps : Nat) :
    onFrom loaded limits i store steps =
      Walk.step limits store steps fun steps =>
        if store.current = 0 then onFrom loaded limits (close + 1) store steps
        else onFrom loaded limits (i + 1) store steps := by
  have target : loaded.jumps.target i = close := by simp [Jumps.target,Array.getD_eq_getD_getElem?,joined]
  exact onFrom_bracket here (.inl rfl) (by simp only [State.landing,target])
/-- A closing bracket leads behind the loop if the cell is zero, and back into the loop otherwise. -/
theorem onFrom_close {start : Nat} (here : loaded.code[i]? = some .loopClose)
    (joined : loaded.jumps[i]? = some (some start)) (store : Store) (steps : Nat) :
    onFrom loaded limits i store steps =
      Walk.step limits store steps fun steps =>
        if store.current = 0 then onFrom loaded limits (i + 1) store steps
        else onFrom loaded limits (start + 1) store steps := by
  have target : loaded.jumps.target i = start := by simp [Jumps.target,Array.getD_eq_getD_getElem?,joined]
  exact onFrom_bracket here (.inr rfl) (by simp only [State.landing,target])

/-- Around a loop: if from its first position on the machine walks through the body and goes on at the closing
    bracket, it walks through the rounds of the loop and goes on behind it. -/
theorem onFrom_rounds {start close : Nat} {body : Store → Nat → Walk} (counts : Counts limits body)
    (closes : loaded.code[close]? = some .loopClose) (joined : loaded.jumps[close]? = some (some start))
    (walks : ∀ store steps, onFrom loaded limits (start + 1) store steps =
      (body store steps).andThen (onFrom loaded limits close)) (store : Store) (steps : Nat) :
    onFrom loaded limits (start + 1) store steps =
      (rounds limits body (limits.steps - steps) store steps).andThen (onFrom loaded limits (close + 1)) := by
  -- Every round takes the step of the closing test, so the steps that are left decrease.
  induction left : limits.steps - steps using Nat.strong_induction_on generalizing store steps with
  | _ n ih =>
    subst left
    rw [walks,counts.rounds_again,andThen_assoc]
    refine andThen_congr ?_
    have forward := counts.forward store steps
    rw [onFrom_close closes joined,step_andThen]
    refine step_congr fun allowed => ?_
    split
    · rfl
    · exact ih _ (by omega) _ _ rfl

/-- What the machine does from the position of some nested commands on is the walk through them, followed by
    what it does from the position behind them. -/
theorem onFrom_trees {trees : List Tree} (proper : ∀ tree ∈ trees, tree.Proper)
    (stands : Stands loaded.code i (toPrograms trees)) (joined : Joined loaded.jumps i trees) (store : Store)
    (steps : Nat) :
    onFrom loaded limits i store steps =
      (walkAll limits loaded.input trees store steps).andThen
        (onFrom loaded limits (i + (toPrograms trees).length)) := by
  induction trees using induction_trees generalizing i store steps with
  | nil => simp [walkAll]
  | leaf command rest ih =>
    obtain ⟨properHere,properRest⟩ := List.forall_mem_cons.mp proper
    rw [toPrograms_leaf] at stands ⊢
    rw [Joined] at joined
    cases properHere with
    | leaf notOpen notClose =>
      rw [onFrom_leaf stands.head notOpen notClose,walkAll_leaf,andThen_assoc,List.length_cons,
        ← Nat.add_assoc,Nat.add_right_comm]
      exact andThen_congr (ih properRest stands.tail joined _ _)
  | loop body rest ihBody ihRest =>
    obtain ⟨properHere,properRest⟩ := List.forall_mem_cons.mp proper
    rw [toPrograms_loop] at stands ⊢
    rw [Joined] at joined
    obtain ⟨opening,closing,inside,behind⟩ := joined
    cases properHere with
    | loop properBody =>
      have bodyStands := stands.tail.append_left
      have closeStands := stands.tail.append_right
      have last : i + (Command.loopOpen :: (toPrograms body ++ Command.loopClose :: toPrograms rest)).length =
          i + 1 + (toPrograms body).length + 1 + (toPrograms rest).length := by
        simp only [List.length_cons,List.length_append]
        omega
      have loops := onFrom_rounds (counts_walkAll limits loaded.input body) closeStands.head closing
        (ihBody properBody bodyStands inside)
      rw [onFrom_open stands.head opening,walkAll_loop,andThen_assoc,step_andThen,last]
      refine step_congr fun _ => ?_
      have goesBehind := fun store steps => ihRest properRest closeStands.tail behind store steps
      split
      · exact goesBehind _ _
      · rw [loops]
        exact andThen_congr (goesBehind _ _)

end Tree

/-! ### Running and walking -/

def Tree.Walk.answer {ε : Type} (walk : Tree.Walk) : Except (Halt ε) Bytes :=
  match walk.stopped with
  | none => .ok walk.store.output.toList
  | some fault => .error (.fault fault)

theorem Tree.Walk.answer_ofRun (run : Run Unit Empty) : (Tree.Walk.ofRun run).answer = Machine.answer run := by
  cases ending : run.ending with
  | refused reason => exact reason.elim
  | _ => simp only [Tree.Walk.answer,Tree.Walk.ofRun,Machine.answer,ending]
theorem Tree.Walk.answer_lift {ε : Type} (walk : Tree.Walk) :
    (walk.answer : Except (Halt Empty) Bytes).mapError Halt.lift = (walk.answer : Except (Halt ε) Bytes) := by
  cases stopped : walk.stopped with
  | none => simp only [Tree.Walk.answer,stopped,Except.mapError]
  | some fault => simp only [Tree.Walk.answer,stopped,Except.mapError,Halt.lift]

namespace Machine

/-- A run without a sink is the walk through the nested commands that the program is written from. -/
theorem ofRun_eq_walk (machine : Machine) {trees : List Tree} (proper : ∀ tree ∈ trees, tree.Proper)
    (input : Bytes) :
    ∃ loaded, load (Tree.toPrograms trees) input = .ok loaded ∧
      Tree.Walk.ofRun (loaded.run machine.size machine.limits Sink.silent ()) =
        Tree.run machine.size machine.limits input trees := by
  obtain ⟨jumps,resolves,joined⟩ := Jumps.ofProgram_toPrograms proper
  refine ⟨⟨(Tree.toPrograms trees).toArray,jumps,input.toArray⟩,load_eq_ok.mpr ⟨jumps,resolves,rfl⟩,?_⟩
  set loaded : Loaded := ⟨(Tree.toPrograms trees).toArray,jumps,input.toArray⟩
  have stands : Stands loaded.code 0 (Tree.toPrograms trees) := by
    intro k _
    simp [loaded]
  have simulated : Tree.onFrom loaded machine.limits 0 (Store.initial machine.size) 0 = _ :=
    Tree.onFrom_trees proper stands joined (Store.initial machine.size) 0
  have ends : Tree.onFrom loaded machine.limits (0 + (Tree.toPrograms trees).length) = Tree.Walk.goesOn := by
    funext store steps
    exact Tree.onFrom_end (by simp [loaded]) store steps
  rw [ends,Tree.Walk.andThen_goesOn] at simulated
  exact simulated

/-- A program whose brackets match reads as nested commands, and with a sink that never refuses a byte the
    machine gives what the walk through them gives: the same bytes or the same limit, the same store and as
    many steps. -/
theorem run_eq_walk {σ ε : Type} (machine : Machine) (sink : Sink σ ε) (accepting : sink.Accepting)
    (memory : σ) {program : Program} (matched : program.Matched) (input : Bytes) :
    ∃ trees, Tree.ofProgram? program = some trees ∧ Tree.toPrograms trees = program ∧
      (∀ tree ∈ trees, tree.Proper) ∧
      let walk := Tree.run machine.size machine.limits input trees
      let ran := machine.run sink memory program input
      ran.1 = walk.answer ∧ ran.2.1.state.store = walk.store ∧ ran.2.1.state.steps = walk.steps := by
  obtain ⟨trees,read,rfl,proper⟩ := matched.exists_trees
  refine ⟨trees,read,rfl,proper,?_⟩
  intro walk ran
  obtain ⟨loaded,loads,simulated⟩ := machine.ofRun_eq_walk proper input
  have quietIs := machine.run_of_load Sink.silent () loads
  obtain ⟨result,left⟩ := machine.run_unrefused sink memory loads
    (Sink.refusal?_of_accepting accepting _ memory)
  have walkIs : walk = Tree.Walk.ofRun (loaded.run machine.size machine.limits Sink.silent ()) := simulated.symm
  have stateIs : ran.2.1.state = (loaded.run machine.size machine.limits Sink.silent ()).state := by
    rw [show ran.2.1 = _ from left,quietIs]
  refine ⟨?_,?_,?_⟩
  · rw [show ran.1 = _ from result,quietIs,walkIs,← Tree.Walk.answer_lift,Tree.Walk.answer_ofRun]
  · rw [stateIs,walkIs]
    rfl
  · rw [stateIs,walkIs]
    rfl

/-- Nested loops that are cut off inside the inner one, with a sink that counts. -/
theorem run_eq_walk_cut :
    let program : Program := [.input,.loopOpen,.loopOpen,.decrement,.output,.comment,.loopClose,.input,.loopClose]
    let counting : Sink Nat Empty := ⟨fun _ count => (.ok (),count + 1)⟩
    counting.Accepting ∧ program.Matched ∧
      ∃ trees, Tree.ofProgram? program = some trees ∧ (Tree.run 2 ⟨9,some 5⟩ [3,1] trees).steps = 9 := by
  intro program counting
  have accepting : counting.Accepting := fun _ _ => rfl
  have matched : program.Matched := ⟨_,rfl⟩
  obtain ⟨trees,read,-,-,-,-,steps⟩ :=
    run_eq_walk ⟨2,⟨9,some 5⟩,State.initial 2⟩ counting accepting 0 matched [3,1]
  exact ⟨accepting,matched,trees,read,steps.symm.trans (by decide)⟩

end Machine

end TapeArena
