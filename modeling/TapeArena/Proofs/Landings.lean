import TapeArena.Proofs.Courses
import TapeArena.Proofs.Partners

/-!
Where control comes from. A step moves on from its own position, or from the partner of the bracket there
(`Loaded.Carries.lands`). So behind a bracket the current cell is what the bracket tests for, whether it was passed or
jumped to from its partner (`State.tested_after`). In front of a loop that starts a program or follows another one the
cell is zero, so no run comes to its body (`State.outside_after`).
-/
namespace TapeArena

/-! ### Where a step lands -/

/-- A program as it is loaded, with the table that joins its brackets. -/
structure Loaded.Carries (program : Program) (loaded : Loaded) : Prop where
  code : loaded.code = program.toArray
  scanned : Jumps.Scanned program program.length [] loaded.jumps

theorem Machine.carries_of_load {loaded : Loaded} {program : Program} {input : Bytes}
    (loads : load program input = .ok loaded) : loaded.Carries program := by
  obtain ⟨jumps,resolves,rfl⟩ := load_eq_ok.mp loads
  exact ⟨rfl,Jumps.scanned_of_ok resolves⟩

/-- A jump leads from a bracket to its partner. -/
theorem Jumps.target_eq {jumps : Jumps} {i j : Nat} (joined : jumps[i]? = some (some j)) : jumps.target i = j := by
  simp [target,Array.getD_eq_getD_getElem?,joined]

/-- All positions from which a command can move on: its own one, or the partner of a bracket on a cell that makes it
    jump. -/
inductive State.Lands (program : Program) (s : State) : Command → Nat → Prop
  | plain {command : Command} (notOpen : command ≠ .loopOpen) (notClose : command ≠ .loopClose) :
    Lands program s command s.position
  | enters (nonzero : s.store.current ≠ 0) : Lands program s .loopOpen s.position
  | skips {j : Nat} (zero : s.store.current = 0) (loop : program.Loop s.position j) : Lands program s .loopOpen j
  | leaves (zero : s.store.current = 0) : Lands program s .loopClose s.position
  | repeats {i : Nat} (nonzero : s.store.current ≠ 0) (loop : program.Loop i s.position) : Lands program s .loopClose i

namespace Loaded.Carries
variable {loaded : Loaded} {program : Program} {s : State} {command : Command} (carries : loaded.Carries program)
include carries

theorem getElem?_code (i : Nat) : loaded.code[i]? = program[i]? := by
  rw [carries.code]
  exact List.getElem?_toArray
theorem size_code : loaded.code.size = program.length := by
  rw [carries.code]
  exact List.size_toArray
theorem getElem?_of_next (here : s.next loaded = some command) : program[s.position]? = some command :=
  (carries.getElem?_code _).symm.trans here

theorem lands (here : s.next loaded = some command) : s.Lands program command (s.landing loaded command) := by
  have standing := carries.getElem?_of_next here
  cases command with
  | loopOpen =>
    obtain ⟨j,leads,-,loop⟩ := carries.scanned.opening standing
    simp only [State.landing,Jumps.target_eq leads]
    split
    · exact .skips ‹_› loop
    · exact .enters ‹_›
  | loopClose =>
    obtain ⟨i,-,leads,loop⟩ := carries.scanned.closing standing
    simp only [State.landing,Jumps.target_eq leads]
    split
    · exact .leaves ‹_›
    · exact .repeats ‹_› loop
  | _ => exact .plain (by decide) (by decide)

end Loaded.Carries

namespace State
variable {loaded : Loaded} {program : Program} {size : Nat} {s : State}

/-! ### Behind a bracket -/

/-- The current cell is as the bracket in front of the position found it: not zero where a loop is entered, and zero
    behind a loop. The first one of all is zero. -/
structure Tested (program : Program) (s : State) : Prop where
  first : s.position = 0 → s.store.current = 0
  entered : ∀ i, s.position = i + 1 → program[i]? = some .loopOpen → s.store.current ≠ 0
  left : ∀ i, s.position = i + 1 → program[i]? = some .loopClose → s.store.current = 0

theorem tested_initial (program : Program) (size : Nat) : (initial size).Tested program where
  first _ := by
    by_cases nonempty : 0 < size <;> simp [initial,Store.initial,Store.current,nonempty]
  entered := nofun
  left := nofun

theorem tested_of_behind {landing : Nat} (behind : s.position = landing + 1)
    (entered : program[landing]? = some .loopOpen → s.store.current ≠ 0)
    (left : program[landing]? = some .loopClose → s.store.current = 0) : s.Tested program where
  first first := absurd (behind.symm.trans first) (Nat.succ_ne_zero landing)
  entered i behindToo opens := by
    cases Nat.succ.inj (behind.symm.trans behindToo)
    exact entered opens
  left i behindToo closes := by
    cases Nat.succ.inj (behind.symm.trans behindToo)
    exact left closes

/-- If a bracket stands in front of the position where a step leads, that bracket or its partner tested the cell. -/
theorem tested_step (carries : loaded.Carries program) {command : Command} (here : s.next loaded = some command) :
    (s.step loaded).Tested program := by
  have standing := carries.getElem?_of_next here
  have lands := carries.lands here
  rw [step_of_next here,execute]
  generalize s.landing loaded command = landing at lands
  -- a bracket leaves the store as it is, so the cell is still what the bracket found
  apply tested_of_behind rfl
  · intro opens
    cases lands with
    | plain notOpen notClose => exact absurd (Option.some.inj (standing.symm.trans opens)) notOpen
    | enters nonzero => exact nonzero
    | skips zero loop => cases loop.closing.symm.trans opens
    | leaves zero => cases standing.symm.trans opens
    | repeats nonzero loop => exact nonzero
  · intro closes
    cases lands with
    | plain notOpen notClose => exact absurd (Option.some.inj (standing.symm.trans closes)) notClose
    | enters nonzero => cases standing.symm.trans closes
    | skips zero loop => exact zero
    | leaves zero => exact zero
    | repeats nonzero loop => cases loop.opening.symm.trans closes

theorem tested_after (carries : loaded.Carries program) (size n : Nat) :
    (after loaded n (initial size)).Tested program := by
  induction n with
  | zero => exact tested_initial program size
  | succ n ih =>
    rw [after_succ]
    cases here : (after loaded n (initial size)).next loaded with
    | none => rwa [step_of_ended here]
    | some command => exact tested_step carries here

end State

/-! ### Dead loops -/

namespace Program
variable {program : Program} {i j a b : Nat}

/-- A loop at the start of a program, or directly behind the end of another one. -/
def DeadAt (program : Program) (i : Nat) : Prop := i = 0 ∨ ∃ k, i = k + 1 ∧ program[k]? = some .loopClose

/-- A position in the body of a loop, or at its end. -/
def Within (i j position : Nat) : Prop := i < position ∧ position ≤ j

/-- A loop that begins in the body of another one, or with it, ends in it, or with it. -/
theorem Loop.within_end (loop : program.Loop i j) (inner : program.Loop a b) (begun : i ≤ a) (inside : a < j) :
    Within i j b := by
  have ahead := inner.lt
  rcases Nat.eq_or_lt_of_le begun with same | behind
  · rw [← same] at inner
    exact ⟨by omega,Nat.le_of_eq (inner.isLeast.unique loop.isLeast)⟩
  · have insideToo := loop.nested inner behind inside
    exact ⟨by omega,by omega⟩
/-- A loop that ends in the body of another one begins in it. -/
theorem Loop.within_start (loop : program.Loop i j) (inner : program.Loop a b) (begun : i ≤ b) (inside : b < j) :
    Within i j a := by
  have ahead := inner.lt
  refine ⟨?_,by omega⟩
  rcases Nat.lt_trichotomy i a with behind | same | before
  · exact behind
  · rw [← same] at inner
    have isEnd := inner.isLeast.unique loop.isLeast
    omega
  · have apart : i ≠ b := by
      rintro rfl
      cases loop.opening.symm.trans inner.closing
    have beyond := inner.nested loop before (by omega)
    omega

end Program

namespace State
open Program
variable {loaded : Loaded} {program : Program} {size i j : Nat} {s : State}

/-- In front of a dead loop the cell is zero. -/
theorem Tested.zero_of_dead (tested : s.Tested program) (dead : program.DeadAt s.position) : s.store.current = 0 := by
  rcases dead with first | ⟨k,behind,closes⟩
  · exact tested.first first
  · exact tested.left k behind closes

/-- A command outside of a dead loop does not move on from its opening bracket, nor from anywhere in its body. -/
theorem Lands.outside {command : Command} {landing : Nat} (lands : s.Lands program command landing)
    (standing : program[s.position]? = some command) (loop : program.Loop i j) (dead : program.DeadAt i)
    (tested : s.Tested program) (outside : ¬ Within i j s.position) : ¬ (i ≤ landing ∧ landing < j) := by
  rintro ⟨begun,inside⟩
  -- without a jump, the only way in is past the opening bracket
  have isOpening (stays : landing = s.position) : s.position = i := by
    by_contra elsewhere
    exact outside ⟨by omega,by omega⟩
  have opening := loop.opening
  cases lands with
  | plain notOpen notClose =>
    rw [← isOpening rfl,standing] at opening
    exact notOpen (Option.some.inj opening)
  | enters nonzero =>
    rw [← isOpening rfl] at dead
    exact nonzero (tested.zero_of_dead dead)
  | leaves zero =>
    rw [← isOpening rfl,standing] at opening
    cases opening
  | skips zero inner => exact outside (loop.within_start inner begun inside)
  | repeats nonzero inner => exact outside (loop.within_end inner begun inside)

/-- No step leads into a dead loop from outside. -/
theorem outside_step (carries : loaded.Carries program) (loop : program.Loop i j) (dead : program.DeadAt i)
    (tested : s.Tested program) (outside : ¬ Within i j s.position) : ¬ Within i j (s.step loaded).position := by
  cases here : s.next loaded with
  | none => rwa [step_of_ended here]
  | some command =>
    rw [step_of_next here]
    rintro ⟨begun,inside⟩
    have standing := carries.getElem?_of_next here
    exact (carries.lands here).outside standing loop dead tested outside ⟨Nat.le_of_lt_succ begun,inside⟩

theorem outside_after (carries : loaded.Carries program) (loop : program.Loop i j) (dead : program.DeadAt i)
    (size n : Nat) : ¬ Within i j (after loaded n (initial size)).position := by
  induction n with
  | zero => exact fun within => Nat.not_lt_zero i within.1
  | succ n ih =>
    rw [after_succ]
    exact outside_step carries loop dead (tested_after carries size n) ih

end State

namespace Machine
open Program
variable {σ ε : Type}

/-- Behind a loop the current cell is zero, and where a loop is entered it is not. So a loop at the start of a program
    or directly behind another one is passed over: no state of a run is in its body or at its end. -/
theorem run_tested (machine : Machine) (sink : Sink σ ε) (memory : σ) {program : Program} {input : Bytes}
    {loaded : Loaded} (loads : load program input = .ok loaded) :
    let heads := loaded.heads machine.size machine.limits sink memory
    let last := (machine.run sink memory program input).2.1.state
    (∀ s ∈ heads, ∀ i, s.position = i + 1 →
      (program[i]? = some .loopClose → s.store.current = 0) ∧
      (program[i]? = some .loopOpen → s.store.current ≠ 0)) ∧
    ∀ i j, program[i]? = some .loopOpen → loaded.jumps[i]? = some (some j) → program.DeadAt i →
      ∀ s, s ∈ heads ∨ s = last → ¬ (i < s.position ∧ s.position ≤ j) := by
  intro heads last
  have carries := carries_of_load loads
  refine ⟨?_,?_⟩
  · intro s member i behind
    obtain ⟨n,rfl⟩ := loaded.exists_of_mem_heads _ _ _ _ member
    have tested := State.tested_after carries machine.size n
    exact ⟨tested.left i behind,tested.entered i behind⟩
  · intro i j opens leads dead s reached
    obtain ⟨partner,leadsToo,-,loop⟩ := carries.scanned.opening opens
    cases leads.symm.trans leadsToo
    have outside := State.outside_after carries loop dead machine.size
    rcases reached with member | rfl
    · obtain ⟨n,rfl⟩ := loaded.exists_of_mem_heads _ _ _ _ member
      exact outside n
    · obtain ⟨run,-,stateIs,course⟩ := exists_course loads machine sink memory
      rw [show last = run.state from stateIs,course.ends.position]
      exact outside _

/-- Two dead loops, one of them around another: the run passes over both. -/
theorem run_tested_dead :
    let program : Program := [.loopOpen,.output,.loopClose,.loopOpen,.loopOpen,.input,.loopClose,.loopClose,.increment]
    let loaded : Loaded :=
      ⟨program.toArray,#[some 2,none,some 0,some 7,some 6,none,some 4,some 3,none],#[5]⟩
    let heads := loaded.heads 1 ⟨9,none⟩ Sink.silent ()
    load program [5] = .ok loaded ∧ program.DeadAt 3 ∧ heads.map State.position = [0,3,8,9] ∧
      ∀ s ∈ heads, ¬ (3 < s.position ∧ s.position ≤ 7) := by
  intro program loaded heads
  have loads : load program [5] = .ok loaded := by cbv
  have dead : program.DeadAt 3 := .inr ⟨2,rfl,rfl⟩
  obtain ⟨-,outside⟩ := run_tested ⟨1,⟨9,none⟩,State.initial 1⟩ Sink.silent () loads
  exact ⟨loads,dead,by decide,fun s member => outside 3 7 rfl rfl dead s (.inl member)⟩

end Machine

end TapeArena
