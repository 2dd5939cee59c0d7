import Mathlib.Algebra.Order.Field.Basic
import Mathlib.Tactic.Linarith
import TapeArena.Proofs.Errors
import TapeArena.Proofs.Generosity

/-!
How the exact and the close score compare, and which programs reach the full score. An example is reproduced if the
run on its input ends on its own within the limits and gives the expected output (`Reproduces`). A reproduced
example has no error and any other one at most the full error, so the exact score never exceeds the close score, and
either is one only if every example is reproduced (`exact_le_close`).
-/
namespace TapeArena

theorem Trial.output_ofCall (made : Except (Halt Empty) Bytes × State) :
    (Trial.ofCall made).output = made.1.toOption := by
  rcases made with ⟨(fault | reason) | bytes,s⟩
  · rfl
  · exact reason.elim
  · rfl

namespace Score
open Scalar Machine
variable {settings : Settings} {program : Source}

/-! ### Reproduced examples -/

/-- The run of a program on the input of an example ends on its own within the limits of the settings, and gives the
    expected output. -/
def Reproduces (settings : Settings) (program : Source) (e : Example) : Prop :=
  (call defaultSize settings.limits program.program e.input).1 = .ok e.expected

instance (settings : Settings) (program : Source) : DecidablePred (Reproduces settings program) :=
  fun _ => inferInstanceAs (Decidable (_ = _))

def errorOn (settings : Settings) (program : Source) (e : Example) : Rat :=
  error (output settings program e.input) e.expected

theorem output_eq_toOption (settings : Settings) (program : Source) (input : Bytes) :
    output settings program input = (call defaultSize settings.limits program.program input).1.toOption := by
  rw [output,Trial.ofLimits_eq]
  exact Trial.output_ofCall _

theorem output_eq_expected {e : Example} :
    output settings program e.input = some e.expected ↔ Reproduces settings program e := by
  rw [output_eq_toOption,Reproduces]
  cases (call defaultSize settings.limits program.program e.input).1 with
  | error halt => exact iff_of_false nofun nofun
  | ok bytes => simp [Except.toOption]

theorem hits_eq (exercise : Exercise) :
    hits settings exercise program = exercise.examples.countP (Reproduces settings program ·) := by
  refine List.countP_congr fun e _ => ?_
  rw [decide_eq_true_eq,decide_eq_true_eq]
  exact output_eq_expected

theorem errorOn_eq_zero {e : Example} : errorOn settings program e = 0 ↔ Reproduces settings program e :=
  error_eq_zero.trans output_eq_expected

/-- A run that fails has the full error, whatever it wrote before. -/
theorem errorOn_of_fault {e : Example} {fault : Fault}
    (failed : (call defaultSize settings.limits program.program e.input).1 = .error (.fault fault)) :
    errorOn settings program e = 1 := by
  rw [errorOn,output_eq_toOption,failed]
  exact error_none e.expected

/-! ### Sums of errors -/

/-- The errors of all examples and the number of reproduced ones do not exceed the number of examples. -/
theorem sum_errorOn_le (settings : Settings) (program : Source) (examples : List Example) :
    (examples.map (errorOn settings program)).sum + examples.countP (Reproduces settings program ·) ≤
      examples.length := by
  induction examples with
  | nil => simp
  | cons e rest ih =>
    rw [List.map_cons,List.sum_cons,List.countP_cons,List.length_cons]
    push_cast
    -- each example adds an error of zero and a count of one, or at most one and a count of zero
    by_cases reproduced : Reproduces settings program e
    · rw [if_pos (decide_eq_true reproduced),errorOn_eq_zero.mpr reproduced]
      linarith only [ih]
    · have most : errorOn settings program e ≤ 1 := error_le_one _ _
      rw [if_neg (by simpa using reproduced)]
      linarith only [ih,most]

theorem sum_errorOn_nonneg (settings : Settings) (program : Source) (examples : List Example) :
    0 ≤ (examples.map (errorOn settings program)).sum := by
  refine List.sum_nonneg fun error found => ?_
  obtain ⟨e,-,rfl⟩ := List.mem_map.mp found
  exact error_nonneg _ _

/-- There is no error in all only if every example is reproduced. -/
theorem sum_errorOn_eq_zero (settings : Settings) (program : Source) (examples : List Example) :
    (examples.map (errorOn settings program)).sum = 0 ↔ ∀ e ∈ examples, Reproduces settings program e := by
  induction examples with
  | nil => simp
  | cons e rest ih =>
    rw [List.map_cons,List.sum_cons,List.forall_mem_cons,← ih,← errorOn_eq_zero]
    exact add_eq_zero_iff_of_nonneg (error_nonneg _ _) (sum_errorOn_nonneg settings program rest)

/-! ### The two scores -/

section
variable (settings : Settings) (exercise : Exercise) (program : Source)

theorem exactUnder_eq :
    exactUnder settings exercise program =
      (exercise.examples.countP (Reproduces settings program ·) / exercise.examples.length : Rat) :=
  congrArg (fun n : Nat => (n / exercise.examples.length : Rat)) (hits_eq exercise)

variable {exercise} (nonempty : exercise.examples ≠ [])
include nonempty

theorem length_examples_pos : (0 : Rat) < exercise.examples.length :=
  Nat.cast_pos.mpr (List.length_pos_iff.mpr nonempty)

theorem exactUnder_eq_one :
    exactUnder settings exercise program = (1 : Rat) ↔ ∀ e ∈ exercise.examples, Reproduces settings program e := by
  rw [exactUnder_eq,div_eq_one_iff_eq (length_examples_pos nonempty).ne',Nat.cast_inj,List.countP_eq_length]
  simp only [decide_eq_true_eq]

theorem closeUnder_eq_one :
    closeUnder settings exercise program = (1 : Rat) ↔ ∀ e ∈ exercise.examples, Reproduces settings program e := by
  rw [closeUnder_eq,sub_eq_self,div_eq_zero_iff,or_iff_left (length_examples_pos nonempty).ne']
  exact sum_errorOn_eq_zero settings program exercise.examples

theorem exactUnder_le_closeUnder :
    exactUnder settings exercise program ≤ (closeUnder settings exercise program : Rat) := by
  rw [exactUnder_eq,closeUnder_eq,le_sub_iff_add_le,← add_div,div_le_one (length_examples_pos nonempty),add_comm]
  exact sum_errorOn_le settings program exercise.examples

omit nonempty in
theorem exactUnder_nonneg : 0 ≤ (exactUnder settings exercise program : Rat) :=
  div_nonneg (Nat.cast_nonneg _) (Nat.cast_nonneg _)

omit nonempty in
theorem closeUnder_le_one : closeUnder settings exercise program ≤ (1 : Rat) := by
  rw [closeUnder_eq]
  exact sub_le_self 1 (div_nonneg (sum_errorOn_nonneg settings program _) (Nat.cast_nonneg _))

end

/-- In a session with settings, the exact score of an exercise with examples is the share of those that are reproduced,
    and the close score is what the mean error leaves of one. Both lie between zero and one, the exact score is no
    more than the close score, and either is one only if every example is reproduced. A run that fails does not
    reproduce its example and has the full error, whatever it wrote. -/
theorem exact_le_close {session : Session} (read : (Session.settings session).1 = .ok settings) {exercise : Exercise}
    (nonempty : exercise.examples ≠ []) (program : Source) :
    let n : Rat := exercise.examples.length
    ∃ exactly closely : Rat,
      (exact exercise program session).1 = .ok exactly ∧ (close exercise program session).1 = .ok closely ∧
      exactly = exercise.examples.countP (Reproduces settings program ·) / n ∧
      closely = 1 - (exercise.examples.map (errorOn settings program)).sum / n ∧
      0 ≤ exactly ∧ exactly ≤ closely ∧ closely ≤ 1 ∧
      (exactly = 1 ↔ closely = 1) ∧
      (closely = 1 ↔ ∀ e ∈ exercise.examples, Reproduces settings program e) ∧
      ∀ e fault, (call defaultSize settings.limits program.program e.input).1 = .error (.fault fault) →
        ¬ Reproduces settings program e ∧ errorOn settings program e = 1 := by
  intro n
  have notEmpty : ¬ exercise.examples.isEmpty := by simpa using nonempty
  have isExact : (exact exercise program session).1 = .ok (exactUnder settings exercise program : Rat) := by
    rw [exact,inSession_of_settings read,if_neg notEmpty]
  have isClose : (close exercise program session).1 = .ok (closeUnder settings exercise program : Rat) := by
    rw [close,inSession_of_settings read,if_neg notEmpty]
  refine ⟨_,_,isExact,isClose,exactUnder_eq settings exercise program,closeUnder_eq settings exercise program,
    exactUnder_nonneg settings program,exactUnder_le_closeUnder settings program nonempty,
    closeUnder_le_one settings program,?_,closeUnder_eq_one settings program nonempty,?_⟩
  · exact (exactUnder_eq_one settings program nonempty).trans (closeUnder_eq_one settings program nonempty).symm
  · intro e fault failed
    refine ⟨fun reproduced => ?_,errorOn_of_fault failed⟩
    cases reproduced.symm.trans failed

/-- An echo whose steps are spent when it has written all of the expected output. -/
theorem exact_le_close_spent :
    let settings : Settings := ⟨7,9,true,1⟩
    let session : Session := ⟨4,[],[],some settings⟩
    let echo : Source := .text (lit ",[.,]")
    let exercise : Exercise := ⟨lit "echo",[⟨[1,2],[1,2]⟩]⟩
    (call defaultSize settings.limits echo.program [1,2]).2.store.output.toList = [1,2] ∧
      errorOn settings echo ⟨[1,2],[1,2]⟩ = 1 ∧
      ∃ exactly closely : Rat, (exact exercise echo session).1 = .ok exactly ∧
        (close exercise echo session).1 = .ok closely ∧ exactly ≠ 1 ∧ closely ≠ 1 := by
  intro settings session echo exercise
  have read : (Session.settings session).1 = .ok settings := rfl
  have ran : (call defaultSize settings.limits echo.program [1,2]).1 = .error (.fault (.stepLimit 7)) ∧
      (call defaultSize settings.limits echo.program [1,2]).2.store.output.toList = [1,2] := by
    decide +kernel
  obtain ⟨exactly,closely,isExact,isClose,-,-,-,-,-,both,isOne,fails⟩ :=
    exact_le_close read (by decide : exercise.examples ≠ []) echo
  have missed := fails ⟨[1,2],[1,2]⟩ _ ran.1
  have notOne : closely ≠ 1 := fun full => missed.1 (isOne.mp full ⟨[1,2],[1,2]⟩ (by decide))
  exact ⟨ran.2,missed.2,exactly,closely,isExact,isClose,mt both.mp notOne,notOne⟩

end Score

end TapeArena
