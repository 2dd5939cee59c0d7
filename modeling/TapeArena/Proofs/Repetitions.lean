import Mathlib.Data.Fintype.BigOperators
import TapeArena.Proofs.Accesses
import TapeArena.Proofs.Sinks

/-!
A run that repeats a configuration never ends. What a run without limits does next depends on its configuration alone
(`State.configuration_step`), so once one comes back, it comes back forever (`State.configuration_repeats`). There are
only so many configurations in bounds, so a run that goes on for more steps than that repeats one
(`State.exists_repetition`). Hence a program either returns within that many steps or exceeds every limit on steps
(`Machine.run_repeats`).
-/
namespace TapeArena

/-- What a run does next depends on: its position, its pointer, its ring, and how many bytes it has read. -/
structure Configuration where
  position : Nat
  pointer : Nat
  cells : Array UInt8
  reads : Nat
  deriving DecidableEq

def State.configuration (s : State) : Configuration := ⟨s.position,s.store.pointer,s.store.cells,s.store.reads⟩

/-- A run without limits never comes to an end. -/
def State.Endless (loaded : Loaded) (s : State) : Prop := ∀ n, ∃ command, (after loaded n s).next loaded = some command

namespace State
variable {loaded : Loaded} {program : Program} {input : Bytes} {size : Nat} {s t : State}

/-! ### Configurations that come back -/

theorem next_configuration (same : s.configuration = t.configuration) : s.next loaded = t.next loaded :=
  congrArg (fun configuration => loaded.code[configuration.position]?) same

/-- Neither the bytes that were written nor the steps that were taken have any influence. -/
theorem configuration_step (same : s.configuration = t.configuration) :
    (s.step loaded).configuration = (t.step loaded).configuration := by
  have next : s.next loaded = t.next loaded := next_configuration same
  cases here : s.next loaded with
  | none => rwa [step_of_ended here,step_of_ended (next.symm.trans here)]
  | some command =>
    rw [step_of_next here,step_of_next (next.symm.trans here)]
    clear next here
    obtain ⟨⟨cells,pointer,reads,output⟩,position,steps⟩ := s
    obtain ⟨⟨_,_,_,outputToo⟩,_,stepsToo⟩ := t
    cases same
    cases command with
    | input =>
      simp only [configuration,execute,landing,Store.perform,Store.read]
      split <;> rfl
    | _ => rfl
theorem configuration_after (same : s.configuration = t.configuration) (n : Nat) :
    (after loaded n s).configuration = (after loaded n t).configuration := by
  induction n with
  | zero => exact same
  | succ n ih =>
    rw [after_succ,after_succ]
    exact configuration_step ih

/-- A configuration that comes back once comes back again and again. -/
theorem configuration_repeats {i period : Nat}
    (back : (after loaded i s).configuration = (after loaded (i + period) s).configuration) (rounds : Nat) :
    (after loaded (i + rounds * period) s).configuration = (after loaded i s).configuration := by
  induction rounds with
  | zero => rw [Nat.zero_mul,Nat.add_zero]
  | succ rounds ih =>
    rw [Nat.succ_mul,← Nat.add_assoc,after_add]
    calc (after loaded period (after loaded (i + rounds * period) s)).configuration
        = (after loaded period (after loaded i s)).configuration := configuration_after ih period
      _ = (after loaded (i + period) s).configuration := by rw [after_add]
      _ = (after loaded i s).configuration := back.symm

theorem endless_of_repetition {i j : Nat} (later : i < j)
    (back : (after loaded i s).configuration = (after loaded j s).configuration) {command : Command}
    (here : (after loaded i s).next loaded = some command) : s.Endless loaded := by
  obtain ⟨period,rfl⟩ := Nat.exists_eq_add_of_lt later
  intro n
  -- by the `n`-th time that the configuration comes back, at least `n` steps were taken
  have again : (after loaded (i + n * (period + 1)) s).configuration = _ := configuration_repeats back n
  have hereToo : (after loaded (i + n * (period + 1)) s).next loaded = some command :=
    (next_configuration again).trans here
  exact next_of_le (Nat.le_add_left_of_le (Nat.le_mul_of_pos_right n (Nat.succ_pos period))) hereToo

/-! ### How many configurations there are -/

/-- The numbers that make up a configuration on a ring of `size` cells. -/
def numbers (size : Nat) (s : State) : Nat × Nat × (Fin size → Nat) × Nat :=
  (s.position,s.store.pointer,fun i => (s.store.cells.getD i 0).toNat,s.store.reads)

open Finset in
/-- The numbers that can make up a configuration in bounds, at a command of a program. -/
def numbersWithin (program : Program) (input : Bytes) (size : Nat) : Finset (Nat × Nat × (Fin size → Nat) × Nat) :=
  range program.length ×ˢ range size ×ˢ Fintype.piFinset (fun _ => range 256) ×ˢ range (input.length + 1)

theorem card_numbersWithin (program : Program) (input : Bytes) (size : Nat) :
    (numbersWithin program input size).card = program.length * size * 256 ^ size * (input.length + 1) := by
  simp [numbersWithin,Finset.card_product,Nat.mul_assoc]

theorem InBounds.numbers_mem (bounds : s.InBounds program input size) (inside : s.position < program.length) :
    s.numbers size ∈ numbersWithin program input size := by
  simp only [numbersWithin,numbers,Finset.mem_product,Finset.mem_range,Fintype.mem_piFinset]
  exact ⟨inside,bounds.pointer,fun i => UInt8.toNat_lt _,Nat.lt_succ_of_le bounds.reads⟩
/-- The numbers determine the configuration. -/
theorem InBounds.configuration_eq (bounds : s.InBounds program input size) (boundsToo : t.InBounds program input size)
    (same : s.numbers size = t.numbers size) : s.configuration = t.configuration := by
  simp only [numbers,Prod.mk.injEq] at same
  obtain ⟨position,pointer,values,reads⟩ := same
  have cells : s.store.cells = t.store.cells := by
    apply Array.ext
    · rw [bounds.ring,boundsToo.ring]
    · intro i inside insideToo
      have value := congrFun values ⟨i,bounds.ring ▸ inside⟩
      simpa [inside,insideToo] using UInt8.toNat_inj.mp value
  simp only [configuration,position,pointer,cells,reads]

/-- A run that goes on for more steps than there are configurations repeats one. -/
theorem exists_repetition (nonempty : 1 ≤ size) (loads : Machine.load program input = .ok loaded) {n : Nat}
    (goes : Goes loaded n (initial size))
    (many : program.length * size * 256 ^ size * (input.length + 1) < n) :
    ∃ i j, i < j ∧ j < n ∧
      (after loaded i (initial size)).configuration = (after loaded j (initial size)).configuration := by
  have bounds := inBounds_after nonempty loads
  have within (i : Nat) (member : i ∈ Finset.range n) :
      (after loaded i (initial size)).numbers size ∈ numbersWithin program input size := by
    obtain ⟨command,here⟩ := goes i (Finset.mem_range.mp member)
    have standing := (Machine.carries_of_load loads).getElem?_of_next here
    exact (bounds i).numbers_mem (List.getElem?_eq_some_iff.mp standing).1
  have fewer : (numbersWithin program input size).card < (Finset.range n).card := by
    rwa [card_numbersWithin,Finset.card_range]
  obtain ⟨i,memberHere,j,memberThere,apart,same⟩ := Finset.exists_ne_map_eq_of_card_lt_of_maps_to fewer within
  have insideHere := Finset.mem_range.mp memberHere
  have insideThere := Finset.mem_range.mp memberThere
  have back := (bounds i).configuration_eq (bounds j) same
  rcases Nat.lt_or_gt_of_ne apart with before | behind
  · exact ⟨i,j,before,insideThere,back⟩
  · exact ⟨j,i,behind,insideHere,back.symm⟩

/-- A run that goes on for more steps than there are configurations never ends. -/
theorem endless_of_many (nonempty : 1 ≤ size) (loads : Machine.load program input = .ok loaded) {n : Nat}
    (goes : Goes loaded n (initial size))
    (many : program.length * size * 256 ^ size * (input.length + 1) < n) : (initial size).Endless loaded := by
  obtain ⟨i,j,later,inside,back⟩ := exists_repetition nonempty loads goes many
  obtain ⟨command,here⟩ := goes i (Nat.lt_trans later inside)
  exact endless_of_repetition later back here

end State

/-! ### Runs that exceed every limit on steps -/

namespace Run.EndsFrom
variable {σ ε : Type} {loaded : Loaded} {limits : Limits} {sink : Sink σ ε} {last : State} {left : Nat} {run : Run σ ε}
  (ends : EndsFrom loaded limits sink last left run)
include ends

/-- Where there is a command, nothing but the limit on steps stops a run without a cap whose sink takes every byte. -/
theorem answer_of_next (uncapped : limits.output = none) (accepting : sink.Accepting) {command : Command}
    (here : last.next loaded = some command) :
    Machine.answer run = .error (.fault (.stepLimit (.ofNat limits.steps))) := by
  cases ends with
  | finished ended => cases here.symm.trans ended
  | spent here => rfl
  | exceeds writing reached => cases uncapped.symm.trans (Limits.reached?_eq_some.mp reached).1
  | @refused _ memory _ _ writing within refuses =>
    have accepted := accepting last.store.current memory
    rw [refuses] at accepted
    cases accepted

end Run.EndsFrom

namespace Machine
open State
variable {σ ε : Type} {loaded : Loaded} {program : Program} {input : Bytes} {size : Nat}

theorem run_of_endless (loads : load program input = .ok loaded) (endless : (initial size).Endless loaded)
    (sink : Sink σ ε) (accepting : sink.Accepting) (memory : σ) (steps : Nat) :
    ((new size ⟨steps,none⟩).run sink memory program input).1 = .error (.fault (.stepLimit (.ofNat steps))) := by
  obtain ⟨run,answerIs,-,course⟩ := exists_course loads (new size ⟨steps,none⟩) sink memory
  obtain ⟨command,here⟩ := endless (loaded.completed size ⟨steps,none⟩ sink memory).length
  rw [answerIs]
  exact course.ends.answer_of_next rfl accepting here

/-- If a configuration comes back at a command, a program exceeds every limit on steps, given that it has no cap and
    that the sink takes every byte. So a program that returns, whatever its sink, does so within as many steps as there
    are configurations, and one that exceeds a limit of at least that many steps exceeds every limit. -/
theorem run_repeats (nonempty : 1 ≤ size) (sink : Sink σ ε) (memory : σ) (loads : load program input = .ok loaded) :
    let start := State.initial size
    let ran (steps : Nat) := (new size ⟨steps,none⟩).run sink memory program input
    let Exceeds (steps : Nat) := (ran steps).1 = .error (.fault (.stepLimit (.ofNat steps)))
    let most := program.length * size * 256 ^ size * (input.length + 1)
    (∀ i j, i < j → (after loaded i start).configuration = (after loaded j start).configuration →
      (after loaded i start).position < program.length → sink.Accepting → ∀ steps, Exceeds steps) ∧
    (∀ steps bytes, (ran steps).1 = .ok bytes → (ran steps).2.1.state.steps ≤ most) ∧
    ∀ steps, most ≤ steps → Exceeds steps → sink.Accepting → ∀ other, Exceeds other := by
  intro start ran Exceeds most
  have carries := carries_of_load loads
  refine ⟨?_,?_,?_⟩
  · intro i j later back inside accepting steps
    have here : (after loaded i start).next loaded = some program[(after loaded i start).position] := by
      rw [State.next,carries.getElem?_code]
      exact List.getElem?_eq_getElem inside
    exact run_of_endless loads (endless_of_repetition later back here) sink accepting memory steps
  · intro steps bytes returned
    obtain ⟨run,answerIs,stateIs,course⟩ := exists_course loads (new size ⟨steps,none⟩) sink memory
    have returned : answer run = .ok bytes := answerIs.symm.trans returned
    have taken : (ran steps).2.1.state.steps = 0 + _ :=
      (congrArg State.steps (stateIs.trans (course.ends.state_of_ok returned))).trans (steps_after course.goes)
    by_contra many
    have endless := endless_of_many nonempty loads course.goes (by omega)
    obtain ⟨command,here⟩ := endless (loaded.completed size ⟨steps,none⟩ sink memory).length
    cases here.symm.trans (course.ends.next_of_ok returned)
  · intro steps enough exceeded accepting other
    obtain ⟨run,answerIs,-,course⟩ := exists_course loads (new size ⟨steps,none⟩) sink memory
    have exceeded : answer run = .error (.fault (.stepLimit (.ofNat steps))) := answerIs.symm.trans exceeded
    have spent : steps - _ = 0 := course.ends.left_eq_zero exceeded
    obtain ⟨command,here⟩ := course.ends.next_of_error exceeded
    -- the step that was refused would have been one more
    have goes : Goes loaded (_ + 1) start := fun i lt => next_of_le (Nat.le_of_lt_succ lt) here
    have endless := endless_of_many nonempty loads goes (by omega)
    exact run_of_endless loads endless sink accepting memory other

/-- A loop without a body on a cell that is not zero: the configuration at its end comes back at once. -/
theorem run_repeats_loop :
    let program : Program := [.increment,.loopOpen,.loopClose]
    let loaded : Loaded := ⟨program.toArray,#[none,some 2,some 1],#[]⟩
    load program [] = .ok loaded ∧
      (after loaded 2 (State.initial 1)).configuration = (after loaded 3 (State.initial 1)).configuration ∧
      ((new 1 ⟨10 ^ 100,none⟩).run Sink.silent () program []).1 = .error (.fault (.stepLimit (.ofNat (10 ^ 100)))) := by
  intro program loaded
  have loads : load program [] = .ok loaded := rfl
  have back : (after loaded 2 (State.initial 1)).configuration = (after loaded 3 (State.initial 1)).configuration := by
    decide
  obtain ⟨exceeds,-⟩ := run_repeats (by decide : 1 ≤ 1) Sink.silent () loads
  exact ⟨loads,back,exceeds 2 3 (by decide) back (by decide) (fun _ _ => rfl) (10 ^ 100)⟩

end Machine

end TapeArena
