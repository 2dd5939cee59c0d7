import Mathlib.Algebra.BigOperators.Ring.Finset
import Mathlib.Data.Int.ModEq
import TapeArena.Proofs.Courses
import TapeArena.Proofs.Inputs

/-!
The counters of a run account for the commands that it completed. Each command keeps the accounts of a store: of its
pointer, of the bytes that were read and written, and of the sum of its cells (`Store.Accounts.perform`). So they are
those of all the commands that were performed one after another (`Store.accounts_performAll`), and a call leaves them as
the commands that it completed make them, but for the step that it broke off (`Machine.run_accounts`).
-/
namespace TapeArena
variable {σ ε : Type}

namespace Store

def total (store : Store) : Nat := (store.cells.toList.map UInt8.toNat).sum

variable {size : Nat} {input : Array UInt8} {done : List Command} {command : Command} {store : Store}

/-! ### What one command changes -/

namespace OnRing
variable (onRing : store.OnRing size)
include onRing

/-- Another value in a cell changes the sum by the difference. -/
theorem total_put (value : UInt8) :
    ((store.put value).total : Int) = store.total - store.current.toNat + value.toNat := by
  have inside : store.pointer < store.cells.toList.length := by
    rw [Array.length_toList,onRing.ring]
    exact onRing.inside
  have current : store.cells.toList[store.pointer] = store.current := by
    rw [← Option.some.injEq,← List.getElem?_eq_getElem inside,Array.getElem?_toList]
    exact onRing.current_eq
  simp only [total,Store.put,Array.toList_setIfInBounds,List.map_set,Nat.cast_list_sum]
  rw [List.sum_set',dif_pos (by simpa only [List.length_map] using inside)]
  simp only [List.getElem_map,current]
  omega

/-- Up to multiples of 256, the sum changes as the cell does. -/
theorem total_put_modEq {value : UInt8} {change : Int}
    (changed : (value.toNat : Int) ≡ store.current.toNat + change [ZMOD 256]) :
    ((store.put value).total : Int) ≡ store.total + change [ZMOD 256] := by
  have others : (store.total : Int) + change = store.total - store.current.toNat + (store.current.toNat + change) := by
    omega
  rw [onRing.total_put,others]
  exact changed.add_left _

theorem total_increment : ((store.perform input .increment).total : Int) ≡ store.total + 1 [ZMOD 256] := by
  have changed : ((store.current + 1).toNat : Int) ≡ store.current.toNat + 1 [ZMOD 256] := by
    rw [← increment_toNat]
    exact Int.mod_modEq _ _
  exact onRing.total_put_modEq changed
theorem total_decrement : ((store.perform input .decrement).total : Int) ≡ store.total - 1 [ZMOD 256] := by
  have changed : ((store.current - 1).toNat : Int) ≡ store.current.toNat + -1 [ZMOD 256] := by
    rw [← decrement_toNat,Int.add_emod_right]
    exact Int.mod_modEq _ _
  exact onRing.total_put_modEq changed

theorem pointer_right : ((store.perform input .right).pointer : Int) ≡ store.pointer + 1 [ZMOD size] := by
  simp only [Store.perform,right,onRing.ring,Int.natCast_mod]
  exact Int.mod_modEq _ _
theorem pointer_left : ((store.perform input .left).pointer : Int) ≡ store.pointer - 1 [ZMOD size] := by
  have inside := onRing.inside
  -- to the left by one is around the ring and back by all cells but one
  have around : ((store.pointer + (size - 1) : Nat) : Int) = store.pointer - 1 + size := by omega
  simp only [Store.perform,left,onRing.ring,Int.natCast_mod,around,Int.add_emod_right]
  exact Int.mod_modEq _ _

end OnRing

theorem pointer_perform (notRight : command ≠ .right) (notLeft : command ≠ .left) :
    (store.perform input command).pointer = store.pointer := by
  cases command with
  | right => exact absurd rfl notRight
  | left => exact absurd rfl notLeft
  | input =>
    simp only [Store.perform,Store.read]
    split <;> rfl
  | _ => rfl
theorem total_perform (notIncrement : command ≠ .increment) (notDecrement : command ≠ .decrement)
    (notInput : command ≠ .input) : (store.perform input command).total = store.total := by
  cases command with
  | increment => exact absurd rfl notIncrement
  | decrement => exact absurd rfl notDecrement
  | input => exact absurd rfl notInput
  | _ => rfl

/-! ### Accounts of many commands -/

/-- How many more commands of one kind than of another one there are. -/
def surplus (done : List Command) (more less : Command) : Int := done.count more - done.count less

theorem surplus_concat (done : List Command) (command more less : Command) :
    surplus (done ++ [command]) more less =
      surplus done more less + (if command = more then 1 else 0) - if command = less then 1 else 0 := by
  simp only [surplus,List.count_append,List.count_singleton,beq_iff_eq]
  split <;> split <;> omega

/-- The accounts of a store after some commands: how far its pointer was moved around the ring, how many bytes were
    read, as long as there were some, and written, and what the cells add up to, unless a read gave one another
    value. -/
structure Accounts (size : Nat) (input : Array UInt8) (done : List Command) (store : Store) : Prop where
  pointer : (store.pointer : Int) ≡ surplus done .right .left [ZMOD size]
  reads : store.reads = min (done.count .input) input.size
  writes : store.writes = done.count .output
  total : done.count .input = 0 → (store.total : Int) ≡ surplus done .increment .decrement [ZMOD 256]

theorem accounts_initial (size : Nat) (input : Array UInt8) : Accounts size input [] (initial size) where
  pointer := Int.ModEq.refl 0
  reads := (Nat.zero_min _).symm
  writes := rfl
  total _ := by simp [Store.total,initial,surplus,Int.ModEq]

namespace Accounts
variable (accounts : Accounts size input done store)
include accounts

theorem pointer_concat (onRing : store.OnRing size) (command : Command) :
    ((store.perform input command).pointer : Int) ≡ surplus (done ++ [command]) .right .left [ZMOD size] := by
  rw [surplus_concat]
  by_cases isRight : command = .right
  · subst isRight
    simpa using onRing.pointer_right.trans (accounts.pointer.add_right 1)
  by_cases isLeft : command = .left
  · subst isLeft
    simpa using onRing.pointer_left.trans (accounts.pointer.sub_right 1)
  · simpa [isRight,isLeft,pointer_perform isRight isLeft] using accounts.pointer

theorem reads_concat (command : Command) :
    (store.perform input command).reads = min ((done ++ [command]).count .input) input.size := by
  rw [List.count_append,List.count_singleton]
  by_cases reading : command = .input
  · subst reading
    exact congrArg Store.reads (read_eq accounts.reads)
  · simpa [reading] using (reads_perform reading input store).trans accounts.reads

theorem writes_concat (command : Command) :
    (store.perform input command).writes = (done ++ [command]).count .output := by
  rw [List.count_append,List.count_singleton]
  by_cases writing : command = .output
  · subst writing
    exact (writes_write store).trans (congrArg (· + 1) accounts.writes)
  · simpa [writing] using (writes_perform writing input store).trans accounts.writes

theorem total_concat (onRing : store.OnRing size) (command : Command) (unread : (done ++ [command]).count .input = 0) :
    ((store.perform input command).total : Int) ≡ surplus (done ++ [command]) .increment .decrement [ZMOD 256] := by
  rw [List.count_append,Nat.add_eq_zero_iff,List.count_singleton] at unread
  have total := accounts.total unread.1
  have notInput : command ≠ .input := by simpa using unread.2
  rw [surplus_concat]
  by_cases isIncrement : command = .increment
  · subst isIncrement
    simpa using onRing.total_increment.trans (total.add_right 1)
  by_cases isDecrement : command = .decrement
  · subst isDecrement
    simpa using onRing.total_decrement.trans (total.sub_right 1)
  · simpa [isIncrement,isDecrement,total_perform isIncrement isDecrement notInput] using total

theorem perform (onRing : store.OnRing size) (command : Command) :
    Accounts size input (done ++ [command]) (store.perform input command) where
  pointer := accounts.pointer_concat onRing command
  reads := accounts.reads_concat command
  writes := accounts.writes_concat command
  total := accounts.total_concat onRing command

theorem performAll (onRing : store.OnRing size) (more : List Command) :
    Accounts size input (done ++ more) (store.performAll input more) := by
  induction more generalizing done store with
  | nil => rwa [List.append_nil]
  | cons command more ih =>
    rw [List.append_cons]
    exact ih (accounts.perform onRing command) (onRing.perform input command)

end Accounts

theorem accounts_performAll (nonempty : 1 ≤ size) (input : Array UInt8) (done : List Command) :
    Accounts size input done ((initial size).performAll input done) :=
  (accounts_initial size input).performAll (onRing_initial nonempty) done

end Store

/-! ### The step that is broken off -/

namespace Machine

/-- How many steps a call began and did not complete: one that met the cap, or one whose byte the sink refused. -/
def brokenSteps : Except (Halt ε) Bytes → Nat
  | .error (.fault (.outputLimit _)) | .error (.refused _) => 1
  | _ => 0
/-- How many bytes a call wrote with a step that it did not complete: the one that the sink refused. -/
def brokenBytes : Except (Halt ε) Bytes → Nat
  | .error (.refused _) => 1
  | _ => 0

end Machine

namespace Run
open Machine

/-- What a run leaves behind the commands that it completed: at most one more step, and at most one more byte. -/
structure Leaves (last : State) (left : Nat) (run : Run σ ε) : Prop where
  store : brokenBytes (answer run) = 0 ∧ run.state.store = last.store ∨
    brokenBytes (answer run) = 1 ∧ run.state.store = last.store.write
  steps : run.state.steps = last.steps + brokenSteps (answer run)
  within : brokenSteps (answer run) ≤ left

theorem EndsFrom.leaves {loaded : Loaded} {limits : Limits} {sink : Sink σ ε} {last : State} {left : Nat}
    {run : Run σ ε} (ends : EndsFrom loaded limits sink last left run) : run.Leaves last left := by
  cases ends with
  | finished ended => exact ⟨.inl ⟨rfl,rfl⟩,rfl,Nat.zero_le _⟩
  | spent here => exact ⟨.inl ⟨rfl,rfl⟩,rfl,Nat.zero_le _⟩
  | exceeds writing reached => exact ⟨.inl ⟨rfl,rfl⟩,rfl,Nat.succ_le_succ (Nat.zero_le _)⟩
  | refused writing within refuses => exact ⟨.inr ⟨rfl,rfl⟩,rfl,Nat.succ_le_succ (Nat.zero_le _)⟩

/-- A broken byte is counted, and it changes nothing else. -/
theorem Leaves.counters {last : State} {left : Nat} {run : Run σ ε} (leaves : run.Leaves last left) :
    run.state.store.pointer = last.store.pointer ∧ run.state.store.reads = last.store.reads ∧
      run.state.store.writes = last.store.writes + brokenBytes (answer run) ∧
      run.state.store.total = last.store.total := by
  rcases leaves.store with ⟨none,same⟩ | ⟨one,written⟩
  · rw [same,none]
    exact ⟨rfl,rfl,rfl,rfl⟩
  · rw [written,one,Store.writes_write]
    exact ⟨rfl,rfl,rfl,rfl⟩

/-- Behind the commands that a run completed, its store has their accounts. -/
theorem EndsBehind.accounts {loaded : Loaded} {limits : Limits} {sink : Sink σ ε} {size allowed : Nat}
    {done : List Command} {run : Run σ ε} (course : EndsBehind loaded limits sink allowed (State.initial size) done run)
    (nonempty : 1 ≤ size) :
    (State.after loaded done.length (State.initial size)).store.Accounts size loaded.input done := by
  rw [course.store]
  exact Store.accounts_performAll nonempty loaded.input done

end Run

/-- On a ring, a pointer that is known up to turns around it is known. -/
theorem Store.OnRing.pointer_eq {size : Nat} {store : Store} (onRing : store.OnRing size) {moved : Int}
    (turned : (store.pointer : Int) ≡ moved [ZMOD size]) : (store.pointer : Int) = moved % size := by
  rw [← turned,Int.emod_eq_of_lt (Int.natCast_nonneg _)]
  exact_mod_cast onRing.inside

namespace Machine

/-- The counters that a call leaves account for the commands that it completed, whatever its ending: the pointer for the
    moves around the ring, the bytes read for the reads up to the length of the input, the bytes written for the writes
    and one that the sink refused, the steps for all commands and one that was broken off, and the cells for the
    increments and decrements, if nothing was read. -/
theorem run_accounts (machine : Machine) (sink : Sink σ ε) (memory : σ) (nonempty : 1 ≤ machine.size)
    {program : Program} {input : Bytes} {loaded : Loaded} (loads : load program input = .ok loaded) :
    let ran := machine.run sink memory program input
    let last := ran.2.1.state
    let done := loaded.completed machine.size machine.limits sink memory
    (last.store.pointer : Int) = ((done.count .right : Int) - done.count .left) % machine.size ∧
    last.store.reads = min (done.count .input) input.length ∧
    last.store.writes = done.count .output + brokenBytes ran.1 ∧
    last.steps = done.length + brokenSteps ran.1 ∧ last.steps ≤ machine.limits.steps ∧
    (done.count .input = 0 →
      (last.store.total : Int) ≡ (done.count .increment : Int) - done.count .decrement [ZMOD 256]) := by
  intro ran last done
  obtain ⟨run,answerIs,stateIs,course⟩ := exists_course loads machine sink memory
  have lastIs : last = run.state := stateIs
  have onRing : (State.after loaded done.length (State.initial machine.size)).store.OnRing machine.size :=
    State.onRing_after (Store.onRing_initial nonempty) done.length
  have accounts := course.accounts nonempty
  have leaves := course.ends.leaves
  obtain ⟨pointer,reads,writes,total⟩ := leaves.counters
  have begun : last.steps = done.length + brokenSteps ran.1 := by
    rw [lastIs,answerIs,leaves.steps,State.steps_after course.goes]
    exact congrArg (· + _) (Nat.zero_add _)
  refine ⟨?_,?_,?_,begun,?_,?_⟩
  · rw [lastIs,pointer]
    exact onRing.pointer_eq accounts.pointer
  · rw [lastIs,reads,← size_input loads]
    exact accounts.reads
  · rw [lastIs,answerIs,writes]
    exact congrArg (· + _) accounts.writes
  · have within : brokenSteps (answer run) ≤ machine.limits.steps - done.length := leaves.within
    have completed : done.length ≤ machine.limits.steps := course.within
    rw [begun,answerIs]
    omega
  · intro unread
    rw [lastIs,total]
    exact accounts.total unread

/-- Moves around a ring of three cells and a decrement below zero, with a sink that refuses the second byte. -/
theorem run_accounts_refused :
    let program : Program := [.left,.left,.decrement,.output,.right,.comment,.output,.input]
    let loaded : Loaded := ⟨program.toArray,Array.replicate 8 none,#[7]⟩
    let sink : Sink Nat Unit := ⟨fun _ count => (if count = 1 then .error () else .ok (),count + 1)⟩
    let machine := new 3 ⟨9,none⟩
    let last := (machine.run sink 0 program [7]).2.1.state
    load program [7] = .ok loaded ∧
      loaded.completed 3 ⟨9,none⟩ sink 0 = [.left,.left,.decrement,.output,.right,.comment] ∧
      last.store.pointer = 2 ∧ last.store.writes = 2 ∧ last.steps = 7 ∧ (last.store.total : Int) ≡ -1 [ZMOD 256] := by
  intro program loaded sink machine last
  have loads : load program [7] = .ok loaded := rfl
  have done : loaded.completed 3 ⟨9,none⟩ sink 0 = [.left,.left,.decrement,.output,.right,.comment] := by decide
  have refused : (machine.run sink 0 program [7]).1 = .error (.refused ()) := by decide
  obtain ⟨pointer,-,writes,steps,-,total⟩ := run_accounts machine sink 0 (by decide : 1 ≤ 3) loads
  rw [show loaded.completed machine.size machine.limits sink 0 = _ from done] at pointer writes steps total
  rw [refused] at writes steps
  exact ⟨loads,done,Int.ofNat.inj pointer,writes,steps,total rfl⟩

end Machine

end TapeArena
