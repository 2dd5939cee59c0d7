import TapeArena.Machine.State

/-!
The run without limits as a sequence of states. A run that has left the program stays where it is, so a
command at some state means that there was a command at every state before it. What a run has written
and read is told by how often it performed the two commands that write and read.
-/
namespace TapeArena

namespace State
variable {loaded : Loaded} {s : State} {command : Command}

theorem step_of_next (here : s.next loaded = some command) : s.step loaded = s.execute loaded command := by
  simp only [step,here]
theorem step_of_ended (ended : s.next loaded = none) : s.step loaded = s := by
  simp only [step,ended]

@[simp] theorem after_zero (loaded : Loaded) (s : State) : after loaded 0 s = s := rfl
theorem after_add (loaded : Loaded) (m n : Nat) (s : State) :
    after loaded (m + n) s = after loaded n (after loaded m s) := by
  induction m generalizing s with
  | zero => rw [Nat.zero_add,after_zero]
  | succ m ih =>
    rw [Nat.succ_add]
    exact ih (s.step loaded)
/-- One more step is taken from the last state. -/
theorem after_succ (loaded : Loaded) (n : Nat) (s : State) :
    after loaded (n + 1) s = (after loaded n s).step loaded :=
  after_add loaded n 1 s

theorem after_of_ended (ended : s.next loaded = none) (n : Nat) : after loaded n s = s := by
  induction n with
  | zero => rfl
  | succ n ih => rw [after_succ,ih,step_of_ended ended]

/-- Once the program is left, it stays left. -/
theorem ended_of_le {m n : Nat} (le : m ≤ n) (ended : (after loaded m s).next loaded = none) :
    (after loaded n s).next loaded = none := by
  obtain ⟨more,rfl⟩ := Nat.exists_eq_add_of_le le
  rw [after_add,after_of_ended ended]
  exact ended
/-- Before a command comes a command. -/
theorem next_of_le {m n : Nat} (le : m ≤ n) (here : (after loaded n s).next loaded = some command) :
    ∃ earlier, (after loaded m s).next loaded = some earlier := by
  cases found : (after loaded m s).next loaded with
  | some earlier => exact ⟨earlier,rfl⟩
  | none =>
    have ended := ended_of_le le found
    rw [here] at ended
    cases ended

/-- Every state before the `n`-th has a command. -/
def Goes (loaded : Loaded) (n : Nat) (s : State) : Prop :=
  ∀ i < n, ∃ command, (after loaded i s).next loaded = some command

theorem Goes.before {n m : Nat} (goes : Goes loaded n s) (le : m ≤ n) : Goes loaded m s :=
  fun i lt => goes i (Nat.lt_of_lt_of_le lt le)

theorem steps_execute (loaded : Loaded) (s : State) (command : Command) :
    (s.execute loaded command).steps = s.steps + 1 := rfl
theorem steps_after {n : Nat} (goes : Goes loaded n s) : (after loaded n s).steps = s.steps + n := by
  induction n with
  | zero => rfl
  | succ n ih =>
    obtain ⟨command,here⟩ := goes n (Nat.lt_succ_self n)
    rw [after_succ,step_of_next here,steps_execute,ih (goes.before (Nat.le_succ n)),Nat.add_assoc]

/-! ### How often a command is performed -/

/-- How often a command is performed in the first `n` steps. -/
def performed (loaded : Loaded) (command : Command) : Nat → State → Nat
  | 0, _ => 0
  | n + 1, s =>
    performed loaded command n s + if (after loaded n s).next loaded = some command then 1 else 0

theorem performed_succ_self {n : Nat} (here : (after loaded n s).next loaded = some command) :
    performed loaded command (n + 1) s = performed loaded command n s + 1 := by
  simp only [performed,here,if_true]
theorem performed_succ_other {n : Nat} (other : (after loaded n s).next loaded ≠ some command) :
    performed loaded command (n + 1) s = performed loaded command n s := by
  simp only [performed,other,if_false,Nat.add_zero]

theorem performed_add (loaded : Loaded) (command : Command) (m n : Nat) (s : State) :
    performed loaded command (m + n) s =
      performed loaded command m s + performed loaded command n (after loaded m s) := by
  induction n with
  | zero => rfl
  | succ n ih =>
    rw [← Nat.add_assoc]
    simp only [performed,ih,after_add,Nat.add_assoc]
theorem performed_step_self (here : s.next loaded = some command) (n : Nat) :
    performed loaded command (n + 1) s = performed loaded command n (s.step loaded) + 1 := by
  rw [Nat.add_comm n 1,performed_add,performed_succ_self (n := 0) here,Nat.add_comm]
  rfl
theorem performed_step_other (other : s.next loaded ≠ some command) (n : Nat) :
    performed loaded command (n + 1) s = performed loaded command n (s.step loaded) := by
  rw [Nat.add_comm n 1,performed_add,performed_succ_other (n := 0) other]
  exact Nat.zero_add _

theorem performed_le {m n : Nat} (le : m ≤ n) :
    performed loaded command m s ≤ performed loaded command n s := by
  induction le with
  | refl => exact Nat.le_refl _
  | step _ ih => exact Nat.le_trans ih (Nat.le_add_right ..)

/-- Different steps that perform a command have different numbers of performances before them. -/
theorem performed_lt {m n : Nat} (lt : m < n) (here : (after loaded m s).next loaded = some command) :
    performed loaded command m s < performed loaded command n s := by
  have counted := performed_succ_self here
  have later : performed loaded command (m + 1) s ≤ performed loaded command n s := performed_le lt
  omega

end State

/-! ### What is written -/

namespace Store

@[simp] theorem output_put (store : Store) (value : UInt8) : (store.put value).output = store.output := rfl
@[simp] theorem output_read (input : Array UInt8) (store : Store) :
    (store.read input).output = store.output := by
  unfold read
  split <;> rfl

/-- Only one command writes. -/
theorem output_perform {command : Command} (other : command ≠ .output) (input : Array UInt8)
    (store : Store) : (store.perform input command).output = store.output := by
  cases command with
  | output => exact absurd rfl other
  | input => exact output_read input store
  | _ => rfl

theorem writes_write (store : Store) : store.write.writes = store.writes + 1 := by
  simp [writes,write]
theorem writes_perform {command : Command} (other : command ≠ .output) (input : Array UInt8)
    (store : Store) : (store.perform input command).writes = store.writes := by
  rw [writes,output_perform other,writes]

end Store

/-- The output grows by one byte for every performance of the command that writes. -/
theorem State.writes_after (loaded : Loaded) (n : Nat) (s : State) :
    (after loaded n s).store.writes = s.store.writes + performed loaded .output n s := by
  induction n with
  | zero => rfl
  | succ n ih =>
    rw [after_succ]
    cases here : (after loaded n s).next loaded with
    | none =>
      rw [step_of_ended here,performed_succ_other (by simp [here]),ih]
    | some command =>
      rw [step_of_next here]
      by_cases writing : command = .output
      · subst writing
        rw [performed_succ_self here,← Nat.add_assoc,← ih]
        exact Store.writes_write _
      · rw [performed_succ_other (by simp [here,writing]),← ih]
        exact Store.writes_perform writing _ _

end TapeArena
