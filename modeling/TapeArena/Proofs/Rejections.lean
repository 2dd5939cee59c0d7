import Mathlib.Order.Bounds.Basic
import TapeArena.Proofs.Brackets
import TapeArena.Proofs.Endings

/-!
Which programs are rejected, and for which bracket. A closing bracket is at fault if some beginning of the program
closes more loops than it opens; it ends the shortest one (`Jumps.Outcome.shortest`). Otherwise an opening bracket is
at fault if the whole program opens more loops than it closes: the last one whose loop nothing behind it closes
(`Jumps.Outcome.last`). Every evaluation rejects just these programs, and nothing happens before
(`Machine.rejects_unmatched`).
-/
namespace TapeArena

namespace Program

/-- Some commands close more loops than they open. -/
def Overclosed (commands : Program) : Prop := opened commands < closed commands
/-- Some commands open more loops than they close. -/
def Underclosed (commands : Program) : Prop := closed commands < opened commands
/-- A loop is opened at a position, and nothing behind it closes that loop. -/
def LeftOpen (program : Program) (i : Nat) : Prop :=
  program[i]? = some .loopOpen ∧ ∀ n, ¬ Overclosed ((program.drop (i + 1)).take n)

theorem LeavesOpen.not_overclosed {commands : Program} {pending : List Nat} (leaves : LeavesOpen commands pending)
    (n : Nat) : ¬ Overclosed (commands.take n) :=
  Nat.not_lt.mpr (leaves.covered n)
theorem LeavesOpen.underclosed {commands : Program} {last : Nat} {pending : List Nat}
    (leaves : LeavesOpen commands (last :: pending)) : Underclosed commands := by
  have counted := leaves.opened_eq
  rw [List.length_cons] at counted
  unfold Underclosed
  omega

end Program

namespace Jumps
open Program
variable {program : Program} {i : Nat}

/-- A closing bracket without a partner ends the shortest beginning that closes more loops than it opens. -/
theorem Outcome.shortest (outcome : Outcome program (.error (.unmatchedClose i))) :
    IsLeast {n | Overclosed (program.take n)} (i + 1) := by
  cases outcome with
  | surplus leaves here =>
    have even := leaves.opened_eq
    constructor
    · show Overclosed (program.take (i + 1))
      rw [Overclosed,List.take_add_one,here]
      simp at even
      simp
      omega
    · intro n surplus
      by_contra before
      have part : (program.take i).take n = program.take n := by
        rw [List.take_take,Nat.min_eq_left (by omega)]
      have covered := leaves.not_overclosed n
      rw [part] at covered
      exact covered surplus

/-- An opening bracket without a partner is the last one whose loop nothing behind it closes. -/
theorem Outcome.last (outcome : Outcome program (.error (.unmatchedOpen i))) :
    (∀ n, ¬ Overclosed (program.take n)) ∧ Underclosed program ∧ IsGreatest {k | program.LeftOpen k} i := by
  cases outcome with
  | unfinished leaves =>
    refine ⟨leaves.not_overclosed,leaves.underclosed,?_⟩
    cases leaves with
    | @loop before body pending _ balanced =>
      have behind (m : Nat) : (before ++ .loopOpen :: body).drop (before.length + 1 + m) = body.drop m := by
        have front : before.length + 1 + m - before.length = m + 1 := by omega
        rw [List.drop_append,List.drop_eq_nil_of_le (by omega),front]
        rfl
      constructor
      · refine ⟨by simp,fun n => ?_⟩
        rw [behind 0]
        exact Nat.not_lt.mpr (balanced.covered n)
      · rintro k ⟨opens,unclosed⟩
        by_contra later
        obtain ⟨m,rfl⟩ := Nat.exists_eq_add_of_le (Nat.lt_of_not_le later)
        -- what stands before and behind that bracket does not close it, although the whole is balanced
        have rest : body.drop m = .loopOpen :: body.drop (m + 1) := by
          rw [← behind m,List.drop_eq_getElem?_toList_append,opens,Nat.add_assoc _ m 1,behind (m + 1)]
          rfl
        have before := balanced.covered m
        have after := unclosed body.length
        have whole := balanced.even
        rw [Nat.add_assoc _ m 1,behind (m + 1),List.take_of_length_le (by simp)] at after
        rw [← List.take_append_drop m body,rest,opened_append,closed_append] at whole
        simp [Overclosed] at whole after
        omega

theorem Outcome.balanced {jumps : Jumps} (outcome : Outcome program (.ok jumps)) :
    (∀ n, ¬ Overclosed (program.take n)) ∧ ¬ Underclosed program := by
  cases outcome with
  | resolved scanned =>
    have leaves := scanned.leaves
    rw [List.take_length] at leaves
    exact ⟨leaves.not_overclosed,Nat.not_lt.mpr (Nat.le_of_eq leaves.opened_eq)⟩

section
variable (program : Program)

/-- What comes of a scan is told by the numbers of loops that are opened and closed. -/
theorem counts_ofProgram :
    ((∃ i, ofProgram program = .error (.unmatchedClose i)) ∧ ∃ n, Overclosed (program.take n)) ∨
    ((∃ i, ofProgram program = .error (.unmatchedOpen i)) ∧
      (∀ n, ¬ Overclosed (program.take n)) ∧ Underclosed program) ∨
    (∃ jumps, ofProgram program = .ok jumps) ∧ (∀ n, ¬ Overclosed (program.take n)) ∧ ¬ Underclosed program := by
  have outcome := outcome_ofProgram program
  rcases resolved : ofProgram program with (i | i) | jumps
  · rw [resolved] at outcome
    obtain ⟨covered,under,-⟩ := outcome.last
    exact .inr (.inl ⟨⟨i,rfl⟩,covered,under⟩)
  · rw [resolved] at outcome
    exact .inl ⟨⟨i,rfl⟩,i + 1,outcome.shortest.1⟩
  · rw [resolved] at outcome
    exact .inr (.inr ⟨⟨jumps,rfl⟩,outcome.balanced⟩)

theorem exists_unmatchedClose_iff :
    (∃ i, ofProgram program = .error (.unmatchedClose i)) ↔ ∃ n, Overclosed (program.take n) := by
  rcases counts_ofProgram program with ⟨found,surplus⟩ | ⟨⟨i,found⟩,covered,-⟩ | ⟨⟨jumps,found⟩,covered,-⟩
  · exact iff_of_true found surplus
  · exact iff_of_false (by simp [found]) (not_exists.mpr covered)
  · exact iff_of_false (by simp [found]) (not_exists.mpr covered)

theorem exists_unmatchedOpen_iff :
    (∃ i, ofProgram program = .error (.unmatchedOpen i)) ↔
      (∀ n, ¬ Overclosed (program.take n)) ∧ Underclosed program := by
  rcases counts_ofProgram program with ⟨⟨i,found⟩,n,surplus⟩ | ⟨found,left⟩ | ⟨⟨jumps,found⟩,-,notUnder⟩
  · exact iff_of_false (by simp [found]) fun counts => counts.1 n surplus
  · exact iff_of_true found left
  · exact iff_of_false (by simp [found]) fun counts => notUnder counts.2

theorem exists_ok_iff :
    (∃ jumps, ofProgram program = .ok jumps) ↔ (∀ n, ¬ Overclosed (program.take n)) ∧ ¬ Underclosed program := by
  rcases counts_ofProgram program with ⟨⟨i,found⟩,n,surplus⟩ | ⟨⟨i,found⟩,-,under⟩ | ⟨found,balanced⟩
  · exact iff_of_false (by simp [found]) fun counts => counts.1 n surplus
  · exact iff_of_false (by simp [found]) fun counts => counts.2 under
  · exact iff_of_true found balanced

end

end Jumps

/-! ### Evaluations -/

namespace Machine
open Jumps Program
variable {σ ε : Type}

/-- A program is rejected for a closing bracket if one of its beginnings closes more loops than it opens, at the end of
    the shortest of these; for an opening one if none does but the whole program opens more loops than it closes, at
    the last loop that is left open; and otherwise not at all. Every evaluation of a program, in bytes, in text or on
    a machine that was used before, names the same bracket for the same programs; the machine and what its sink
    remembers stay as they were. -/
theorem rejects_unmatched (source input : Source) :
    let program := source.program
    let covered := ∀ n, ¬ Overclosed (program.take n)
    ((∃ i, ofProgram program = .error (.unmatchedClose i)) ↔ ∃ n, Overclosed (program.take n)) ∧
    (∀ i, ofProgram program = .error (.unmatchedClose i) → IsLeast {n | Overclosed (program.take n)} (i + 1)) ∧
    ((∃ i, ofProgram program = .error (.unmatchedOpen i)) ↔ covered ∧ Underclosed program) ∧
    (∀ i, ofProgram program = .error (.unmatchedOpen i) → IsGreatest {k | program.LeftOpen k} i) ∧
    ((∃ jumps, ofProgram program = .ok jumps) ↔ covered ∧ ¬ Underclosed program) ∧
    ∀ (sink : Sink σ ε) (memory : σ) (limits : Limits) (fault : BracketFault),
      let halt : Halt ε := .fault (Fault.ofBracket fault)
      (∀ machine : Machine,
        ((machine.run sink memory program input.feed).1 = .error halt ↔ ofProgram program = .error fault) ∧
        (ofProgram program = .error fault →
          machine.run sink memory program input.feed = (.error halt,machine,memory))) ∧
      ((evalBytes limits sink memory source input).1 = .error halt ↔ ofProgram program = .error fault) ∧
      (ofProgram program = .error fault → evalBytes limits sink memory source input = (.error halt,memory)) ∧
      (evalText limits.steps source input = .error (Fault.ofBracket fault) ↔ ofProgram program = .error fault) := by
  intro program covered
  have outcome := outcome_ofProgram program
  refine ⟨exists_unmatchedClose_iff program,?_,exists_unmatchedOpen_iff program,?_,exists_ok_iff program,?_⟩
  · intro i rejected
    rw [rejected] at outcome
    exact outcome.shortest
  · intro i rejected
    rw [rejected] at outcome
    exact outcome.last.2.2
  · intro sink memory limits fault halt
    refine ⟨fun machine => ?_,run_eq_bracket _ sink memory,?_,?_⟩
    · exact ⟨run_eq_bracket machine sink memory,fun rejected => run_of_rejected machine sink memory rejected _⟩
    · intro rejected
      rw [evalBytes,run_of_rejected _ sink memory rejected]
    · rw [← run_eq_bracket (new defaultSize ⟨limits.steps,none⟩) Sink.silent (),evalText,evalBytes]
      rcases (run _ Sink.silent () source.program input.feed).1 with (found | reason) | bytes
      · simp
      · exact reason.elim
      · simp

end Machine

end TapeArena
