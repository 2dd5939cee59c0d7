import TapeArena.Proofs.Inputs
import TapeArena.Proofs.Landings
import TapeArena.Proofs.Rings

/-!
No access goes astray. A machine that checks every access, to the code, the cells, the input and the jump table, that
refuses a jump without a partner and a number that is no byte, and that computes with whole numbers throughout
(`State.stepChecked`), does at every head of a run what the machine does that checks nothing (`Machine.run_checked`).
The invariant is that the store is on its ring, that no more bytes were read than there are, and that the position is in
the program or directly behind it (`State.InBounds`).
-/
namespace TapeArena

/-! ### A machine that checks its accesses -/

/-- An access that goes astray: to a command, a cell, a byte of the input or a slot of the table that is not there, a
    jump from a slot without a partner, or a number for a cell that is no byte. -/
inductive Stray
  | command (position : Nat)
  | cell (pointer : Nat)
  | byte (index : Nat)
  | slot (position : Nat)
  | partner (position : Nat)
  | number (value : Int)
  deriving DecidableEq

/-- The entry at an index, or what an access beyond the last one comes to. -/
def Stray.guard {α : Type} (stray : Nat → Stray) (entries : Array α) (i : Nat) : Except Stray α :=
  match entries[i]? with
  | some entry => .ok entry
  | none => .error (stray i)

namespace Store

/-- The number in the cell under the pointer. -/
def fetch (store : Store) : Except Stray Int := do
  let cell ← Stray.guard .cell store.cells store.pointer
  return cell.toNat
/-- Another number in the cell under the pointer; it has to be a byte. -/
def keep (store : Store) (value : Int) : Except Stray Store := do
  let _ ← Stray.guard .cell store.cells store.pointer
  if 0 ≤ value ∧ value ≤ 255 then return store.put (UInt8.ofNat value.toNat)
  else throw (.number value)

/-- What a command does on a ring of `size` cells, each access checked. -/
def performChecked (size : Nat) (input : Array UInt8) (store : Store) : Command → Except Stray Store
  | .right => return { store with pointer := ((store.pointer + 1 : Int) % size).toNat }
  | .left => return { store with pointer := ((store.pointer - 1 + size : Int) % size).toNat }
  | .increment => do
    let value ← store.fetch
    store.keep ((value + 1) % 256)
  | .decrement => do
    let value ← store.fetch
    store.keep ((value - 1 + 256) % 256)
  | .output => do
    let value ← store.fetch
    return { store with output := store.output.push (UInt8.ofNat value.toNat) }
  | .input =>
    if store.reads < input.size then do
      let byte ← Stray.guard .byte input store.reads
      let store ← store.keep byte.toNat
      return { store with reads := store.reads + 1 }
    else store.keep 0
  | .loopOpen | .loopClose | .comment => return store

end Store

namespace State

/-- The partner of the bracket at the position. -/
def jump (loaded : Loaded) (s : State) : Except Stray Nat := do
  match ← Stray.guard .slot loaded.jumps s.position with
  | some partner => return partner
  | none => throw (.partner s.position)
/-- The position from which a command moves on, each access checked. -/
def landingChecked (loaded : Loaded) (s : State) : Command → Except Stray Nat
  | .loopOpen => do
    let value ← s.store.fetch
    if value = 0 then s.jump loaded else return s.position
  | .loopClose => do
    let value ← s.store.fetch
    if value = 0 then return s.position else s.jump loaded
  | _ => return s.position
/-- One step on a ring of `size` cells, each access checked. -/
def stepChecked (loaded : Loaded) (size : Nat) (s : State) : Except Stray State :=
  if s.position < loaded.code.size then do
    let command ← Stray.guard .command loaded.code s.position
    let store ← s.store.performChecked size loaded.input command
    let position ← s.landingChecked loaded command
    return ⟨store,position + 1,s.steps + 1⟩
  else return s

end State

/-! ### Accesses in range -/

namespace Stray

theorem guard_eq {α : Type} {entries : Array α} {i : Nat} {entry : α} (found : entries[i]? = some entry)
    (stray : Nat → Stray) : guard stray entries i = .ok entry := by
  simp only [guard,found]
theorem ok_bind {α β : Type} (a : α) (next : α → Except Stray β) : Except.ok a >>= next = next a := rfl

end Stray

namespace Store.OnRing
variable {size : Nat} {store : Store} (onRing : store.OnRing size)
include onRing

theorem fetch_eq : store.fetch = .ok (store.current.toNat : Int) := by
  rw [fetch,Stray.guard_eq onRing.current_eq]
  rfl
theorem keep_eq (value : UInt8) : store.keep value.toNat = .ok (store.put value) := by
  have byte : (0 : Int) ≤ value.toNat ∧ (value.toNat : Int) ≤ 255 := by
    have lt := value.toNat_lt
    omega
  rw [keep,Stray.guard_eq onRing.current_eq]
  simp [byte]

theorem right_eq : ((store.pointer + 1 : Int) % size).toNat = (store.pointer + 1) % store.cells.size := by
  rw [onRing.ring]
  exact Int.toNat_natCast _
theorem left_eq :
    ((store.pointer - 1 + size : Int) % size).toNat = (store.pointer + (store.cells.size - 1)) % store.cells.size := by
  have inside := onRing.inside
  have back : (store.pointer - 1 + size : Int) = (store.pointer + (size - 1) : Nat) := by omega
  rw [onRing.ring,back]
  exact Int.toNat_natCast _

theorem performChecked_eq (input : Array UInt8) (command : Command) :
    store.performChecked size input command = .ok (store.perform input command) := by
  cases command with
  | right => exact congrArg (fun pointer => Except.ok { store with pointer }) onRing.right_eq
  | left => exact congrArg (fun pointer => Except.ok { store with pointer }) onRing.left_eq
  | increment =>
    rw [performChecked,onRing.fetch_eq,Stray.ok_bind,increment_toNat,onRing.keep_eq]
    rfl
  | decrement =>
    rw [performChecked,onRing.fetch_eq,Stray.ok_bind,decrement_toNat,onRing.keep_eq]
    rfl
  | output =>
    rw [performChecked,onRing.fetch_eq,Stray.ok_bind,Int.toNat_natCast,UInt8.ofNat_toNat]
    rfl
  | input =>
    rw [performChecked,Store.perform,Store.read]
    split
    · rename_i inside
      have found : input[store.reads]? = some input[store.reads] := Array.getElem?_eq_getElem inside
      rw [Stray.guard_eq found,Stray.ok_bind,onRing.keep_eq,found]
      rfl
    · rename_i beyond
      rw [Array.getElem?_eq_none (Nat.le_of_not_lt beyond)]
      exact onRing.keep_eq 0
  | loopOpen => rfl
  | loopClose => rfl
  | comment => rfl

end Store.OnRing

namespace State
variable {loaded : Loaded} {program : Program} {size : Nat} {s : State} {command : Command}

theorem jump_eq {partner : Nat} (joined : loaded.jumps[s.position]? = some (some partner)) :
    s.jump loaded = .ok (loaded.jumps.target s.position) := by
  rw [jump,Stray.guard_eq joined,Jumps.target_eq joined]
  rfl
/-- A jump is only taken from a bracket, and every bracket has a partner. -/
theorem landingChecked_eq (carries : loaded.Carries program) (onRing : s.store.OnRing size)
    (here : s.next loaded = some command) : s.landingChecked loaded command = .ok (s.landing loaded command) := by
  have standing := carries.getElem?_of_next here
  have zero : (s.store.current.toNat : Int) = 0 ↔ s.store.current = 0 := by
    rw [Int.natCast_eq_zero]
    exact UInt8.toNat_inj (b := 0)
  cases command with
  | loopOpen =>
    obtain ⟨j,leads,-,-⟩ := carries.scanned.opening standing
    rw [landingChecked,onRing.fetch_eq,Stray.ok_bind,jump_eq leads,landing,if_congr zero rfl rfl,apply_ite Except.ok]
    rfl
  | loopClose =>
    obtain ⟨i,-,leads,-⟩ := carries.scanned.closing standing
    rw [landingChecked,onRing.fetch_eq,Stray.ok_bind,jump_eq leads,landing,if_congr zero rfl rfl,apply_ite Except.ok]
    rfl
  | _ => rfl

/-- On a ring, a step whose accesses are checked is a step. -/
theorem stepChecked_eq (carries : loaded.Carries program) (onRing : s.store.OnRing size) :
    s.stepChecked loaded size = .ok (s.step loaded) := by
  rw [stepChecked]
  split
  · rename_i inside
    have here : s.next loaded = some loaded.code[s.position] := Array.getElem?_eq_getElem inside
    rw [Stray.guard_eq here,Stray.ok_bind,onRing.performChecked_eq,Stray.ok_bind,landingChecked_eq carries onRing here,
      step_of_next here]
    rfl
  · rename_i beyond
    have ended : s.next loaded = none := Array.getElem?_eq_none (Nat.le_of_not_lt beyond)
    rw [step_of_ended ended]
    rfl

/-! ### States in bounds -/

/-- The pointer is on a ring of `size` bytes, no more was read than there is, and the position is in the program or
    directly behind it. -/
structure InBounds (program : Program) (input : Bytes) (size : Nat) (s : State) : Prop where
  pointer : s.store.pointer < size
  ring : s.store.cells.size = size
  cells : ∀ cell ∈ s.store.cells, cell.toNat ≤ 255
  reads : s.store.reads ≤ input.length
  position : s.position ≤ program.length

theorem Lands.lt_length {landing : Nat} (lands : s.Lands program command landing)
    (standing : program[s.position]? = some command) : landing < program.length := by
  have inside : s.position < program.length := (List.getElem?_eq_some_iff.mp standing).1
  cases lands with
  | plain notOpen notClose => exact inside
  | enters nonzero => exact inside
  | skips zero loop => exact loop.lt_length
  | leaves zero => exact inside
  | repeats nonzero loop => exact Nat.lt_trans loop.lt inside

theorem position_step (carries : loaded.Carries program) (before : s.position ≤ program.length) :
    (s.step loaded).position ≤ program.length := by
  cases here : s.next loaded with
  | none => rwa [step_of_ended here]
  | some command =>
    rw [step_of_next here]
    exact (carries.lands here).lt_length (carries.getElem?_of_next here)
theorem position_after (carries : loaded.Carries program) (size n : Nat) :
    (after loaded n (initial size)).position ≤ program.length := by
  induction n with
  | zero => exact Nat.zero_le _
  | succ n ih =>
    rw [after_succ]
    exact position_step carries ih

theorem inBounds_after {input : Bytes} (nonempty : 1 ≤ size) (loads : Machine.load program input = .ok loaded)
    (n : Nat) : (after loaded n (initial size)).InBounds program input size := by
  have onRing : (after loaded n (initial size)).store.OnRing size := onRing_after (Store.onRing_initial nonempty) n
  refine ⟨onRing.inside,onRing.ring,?_,?_,position_after (Machine.carries_of_load loads) size n⟩
  · intro cell _
    exact Nat.le_of_lt_succ cell.toNat_lt
  · rw [reads_after loaded rfl,← Machine.size_input loads]
    exact Nat.min_le_right ..

/-- A program is left at the position directly behind it. -/
theorem InBounds.position_eq {input : Bytes} (bounds : s.InBounds program input size) (carries : loaded.Carries program)
    (ended : s.next loaded = none) : s.position = program.length := by
  have beyond : loaded.code.size ≤ s.position := Array.getElem?_eq_none_iff.mp ended
  rw [carries.size_code] at beyond
  exact Nat.le_antisymm bounds.position beyond

end State

namespace Machine
variable {σ ε : Type}

/-- Whatever its limits and its sink, a run is in bounds at every head of its loop, and what it does there it does with
    every access checked: none goes astray, and no jump is taken without a partner. A run that returns ends directly
    behind the program, one that is aborted at one of its commands. -/
theorem run_checked (machine : Machine) (sink : Sink σ ε) (memory : σ) (nonempty : 1 ≤ machine.size) {program : Program}
    {input : Bytes} {loaded : Loaded} (loads : load program input = .ok loaded) :
    let ran := machine.run sink memory program input
    let last := ran.2.1.state
    (∀ s ∈ loaded.heads machine.size machine.limits sink memory,
      s.InBounds program input machine.size ∧ s.stepChecked loaded machine.size = .ok (s.step loaded)) ∧
    (∀ bytes, ran.1 = .ok bytes → last.position = program.length) ∧
    ∀ halt, ran.1 = .error halt → last.position < program.length := by
  intro ran last
  have carries := carries_of_load loads
  obtain ⟨run,answerIs,stateIs,course⟩ := exists_course loads machine sink memory
  have positionIs : last.position = _ := (congrArg State.position stateIs).trans course.ends.position
  have bounds := State.inBounds_after nonempty loads
  refine ⟨?_,?_,?_⟩
  · intro s member
    obtain ⟨n,rfl⟩ := loaded.exists_of_mem_heads _ _ _ _ member
    exact ⟨bounds n,State.stepChecked_eq carries (State.onRing_after (Store.onRing_initial nonempty) n)⟩
  · intro bytes returned
    have ended := course.ends.next_of_ok (answerIs.symm.trans returned)
    rw [positionIs]
    exact (bounds _).position_eq carries ended
  · intro halt aborted
    obtain ⟨command,here⟩ := course.ends.next_of_error (answerIs.symm.trans aborted)
    rw [positionIs]
    exact (List.getElem?_eq_some_iff.mp (carries.getElem?_of_next here)).1

/-- A loop around a ring of two cells that reads past the end of its input, with a sink that refuses the third byte. -/
theorem run_checked_refused :
    let program : Program := [.decrement,.loopOpen,.output,.left,.input,.left,.loopClose]
    let loaded : Loaded := ⟨program.toArray,#[none,some 6,none,none,none,none,some 1],#[7]⟩
    let sink : Sink Nat Unit := ⟨fun _ count => (if count = 2 then .error () else .ok (),count + 1)⟩
    let machine := new 2 ⟨100,none⟩
    load program [7] = .ok loaded ∧ (machine.run sink 0 program [7]).1 = .error (.refused ()) ∧
      (machine.run sink 0 program [7]).2.1.state.position < program.length ∧
      (loaded.heads 2 ⟨100,none⟩ sink 0).length = 13 ∧
      ∀ s ∈ loaded.heads 2 ⟨100,none⟩ sink 0, s.stepChecked loaded 2 = .ok (s.step loaded) := by
  intro program loaded sink machine
  have loads : load program [7] = .ok loaded := rfl
  have refused : (machine.run sink 0 program [7]).1 = .error (.refused ()) := by decide
  obtain ⟨heads,-,aborted⟩ := run_checked machine sink 0 (by decide : 1 ≤ 2) loads
  exact ⟨loads,refused,aborted _ refused,by decide,fun s member => (heads s member).2⟩

example : (State.initial 1).stepChecked ⟨#[.loopOpen],#[none],#[]⟩ 1 = .error (.partner 0) := rfl

end Machine

end TapeArena
