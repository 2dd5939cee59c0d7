import Mathlib.Data.List.Induction
import TapeArena.Proofs.Endings

/-!
A machine that is used again is as good as new. What a call gives and what it hands to the sink depend on the size and
the limits of the machine alone (`run_of_matched`, `run_of_rejected`), and no call changes those. So after any calls,
however they ended, the next call is the same as on a new machine, and the state is the one that the last accepted
call leaves there (`run_again`).
-/
namespace TapeArena

theorem Program.exists_fault {program : Program} (unmatched : ¬ program.Matched) :
    ∃ fault, Jumps.ofProgram program = .error fault := by
  cases resolves : Jumps.ofProgram program with
  | error fault => exact ⟨fault,rfl⟩
  | ok jumps => exact absurd ⟨jumps,resolves⟩ unmatched

namespace Machine
variable {σ ε : Type}

/-! ### Calls -/

structure Call where
  program : Program
  input : Bytes

/-- A call of a machine whose sink remembers something. -/
def perform (machine : Machine) (sink : Sink σ ε) (memory : σ) (call : Call) :
    Except (Halt ε) Bytes × Machine × σ :=
  machine.run sink memory call.program call.input

def performAll (machine : Machine) (sink : Sink σ ε) (memory : σ) : List Call → Machine × σ
  | [] => (machine,memory)
  | call :: rest =>
    let (_,machine,memory) := machine.perform sink memory call
    performAll machine sink memory rest

section
variable (machine : Machine) (sink : Sink σ ε) (memory : σ)

theorem performAll_append (calls later : List Call) :
    machine.performAll sink memory (calls ++ later) =
      (machine.performAll sink memory calls).1.performAll sink (machine.performAll sink memory calls).2 later := by
  induction calls generalizing machine memory with
  | nil => rfl
  | cons call rest ih => exact ih _ _

/-- A program that is accepted runs as on a new machine. -/
theorem run_of_matched {program : Program} (matched : program.Matched) (input : Bytes) :
    machine.run sink memory program input =
      (new machine.size machine.limits).run sink memory program input := by
  obtain ⟨jumps,resolves⟩ := matched
  have loads : load program input = .ok ⟨program.toArray,jumps,input.toArray⟩ := load_eq_ok.mpr ⟨jumps,resolves,rfl⟩
  rw [run_of_load machine sink memory loads,run_of_load _ sink memory loads]
  rfl

/-- A call gives what it gives on a new machine, whatever the machine did before. -/
theorem perform_eq (call : Call) :
    let again := machine.perform sink memory call
    let first := (new machine.size machine.limits).perform sink memory call
    again.1 = first.1 ∧ again.2.2 = first.2.2 := by
  cases resolves : Jumps.ofProgram call.program with
  | error fault => simp only [perform,run_of_rejected _ sink memory resolves,and_self]
  | ok jumps => simp only [perform,run_of_matched machine sink memory ⟨jumps,resolves⟩ call.input,and_self]

theorem perform_fixed (call : Call) :
    (machine.perform sink memory call).2.1.size = machine.size ∧
      (machine.perform sink memory call).2.1.limits = machine.limits := by
  cases loads : load call.program call.input with
  | error fault => simp only [perform,run,loads,and_self]
  | ok loaded => simp only [perform,run,loads,and_self]

/-- No call changes the size and the limits of a machine. -/
theorem performAll_fixed (calls : List Call) :
    (machine.performAll sink memory calls).1.size = machine.size ∧
      (machine.performAll sink memory calls).1.limits = machine.limits := by
  induction calls generalizing machine memory with
  | nil => exact ⟨rfl,rfl⟩
  | cons call rest ih =>
    obtain ⟨size,limits⟩ := perform_fixed machine sink memory call
    obtain ⟨sizeLater,limitsLater⟩ := ih (machine.perform sink memory call).2.1 (machine.perform sink memory call).2.2
    exact ⟨sizeLater.trans size,limitsLater.trans limits⟩

end

/-! ### After any calls -/

/-- No call of some was accepted. -/
def AllRejected (calls : List Call) : Prop := ∀ call ∈ calls, ¬ call.program.Matched

theorem AllRejected.concat {calls : List Call} {last : Call} (rejected : AllRejected calls)
    (unmatched : ¬ last.program.Matched) : AllRejected (calls ++ [last]) := by
  intro call member
  rcases List.mem_append.mp member with before | isLast
  · exact rejected call before
  · rw [List.mem_singleton.mp isLast]
    exact unmatched

/-- Where the state of a machine comes from after some calls: it is that of a new machine if all of them were rejected,
    and otherwise the one that the last accepted call leaves on a new machine whose sink remembers as much. -/
inductive LeftBy (size : Nat) (limits : Limits) (sink : Sink σ ε) (memory : σ) (calls : List Call) : State → Prop
  | unused (rejected : AllRejected calls) : LeftBy size limits sink memory calls (State.initial size)
  | last {before later : List Call} {call : Call} (split : calls = before ++ call :: later)
    (accepted : call.program.Matched) (rejected : AllRejected later) :
    LeftBy size limits sink memory calls
      ((new size limits).perform sink ((new size limits).performAll sink memory before).2 call).2.1.state

section
variable (size : Nat) (limits : Limits) (sink : Sink σ ε) (memory : σ)

theorem leftBy_performAll (calls : List Call) :
    LeftBy size limits sink memory calls ((new size limits).performAll sink memory calls).1.state := by
  induction calls using List.reverseRecOn with
  | nil => exact .unused nofun
  | append_singleton calls call ih =>
    rw [performAll_append]
    generalize leftIs : (new size limits).performAll sink memory calls = left at ih
    show LeftBy size limits sink memory (calls ++ [call]) (left.1.perform sink left.2 call).2.1.state
    -- an accepted call determines the state alone, a rejected one leaves that of the calls before it
    by_cases accepted : call.program.Matched
    · obtain ⟨sameSize,sameLimits⟩ := performAll_fixed (new size limits) sink memory calls
      rw [perform,run_of_matched left.1 sink left.2 accepted,← leftIs,sameSize,sameLimits]
      exact .last rfl accepted nofun
    · obtain ⟨fault,rejects⟩ := Program.exists_fault accepted
      rw [perform,run_of_rejected left.1 sink left.2 rejects]
      show LeftBy size limits sink memory (calls ++ [call]) left.1.state
      generalize left.1.state = state at ih
      cases ih with
      | unused rejected => exact .unused (rejected.concat accepted)
      | last split wasAccepted rejected =>
        exact .last (by rw [split,List.append_assoc,List.cons_append]) wasAccepted (rejected.concat accepted)

/-- After any calls of a machine, each of which may have returned, met a limit, been rejected or been refused by the
    sink, another call gives what it gives on a new machine whose sink remembers as much. If it is rejected, nothing
    changes. The state is that of a new machine after the last accepted call alone. -/
theorem run_again (calls : List Call) :
    let machine := new size limits
    let left := machine.performAll sink memory calls
    (∀ call, let again := left.1.perform sink left.2 call
      let first := machine.perform sink left.2 call
      again.1 = first.1 ∧ again.2.2 = first.2.2 ∧
        ∀ fault, Jumps.ofProgram call.program = .error fault →
          again = (.error (.fault (Fault.ofBracket fault)),left.1,left.2)) ∧
      LeftBy size limits sink memory calls left.1.state := by
  intro machine left
  refine ⟨?_,leftBy_performAll size limits sink memory calls⟩
  intro call again first
  obtain ⟨sameSize,sameLimits⟩ := performAll_fixed machine sink memory calls
  obtain ⟨result,heard⟩ := perform_eq left.1 sink left.2 call
  rw [sameSize,sameLimits] at result heard
  exact ⟨result,heard,fun fault rejects => run_of_rejected left.1 sink left.2 rejects call.input⟩

end

example :
    let used := (new 2 ⟨9,none⟩).performAll Sink.silent ()
      [⟨Program.ofText (lit "+>+"),[]⟩,⟨Program.ofText (lit "]"),[]⟩]
    used.1.state = ⟨⟨#[1,1],1,0,#[]⟩,3,3⟩ ∧
      (used.1.perform Sink.silent used.2 ⟨Program.ofText (lit "."),[]⟩).1 = .ok [0] := by
  decide

end Machine

end TapeArena
