import Mathlib.Algebra.Order.BigOperators.Group.List
import TapeArena.Proofs.Scores
import TapeArena.Proofs.Trials

/-!
More generous limits never hurt a score. A run that ends on its own ends in the same state under limits that
allow no less (`EndsAt.wider`), so a trial that succeeds stays as it is (`Trial.ofLimits_of_within`). A trial
that fails counts for nothing in the exact score and has the full error in the close score, so that any
other trial in its place is no worse (`Score.le_of_wider`).
-/
namespace TapeArena
variable {loaded : Loaded} {s : State}

/-- Limits that allow no more than others. -/
structure Limits.Within (narrow wide : Limits) : Prop where
  steps : narrow.steps ≤ wide.steps
  output : ∀ most, wide.output = some most → ∃ cap, narrow.output = some cap ∧ cap ≤ most

def Settings.limits (settings : Settings) : Limits := ⟨settings.stepLimit,some settings.outputLimit⟩

namespace State
variable {narrow wide : Option Nat}

/-- A step that one cap allows is allowed by every larger one. -/
theorem end?_none_of_wider (wider : ∀ most, wide = some most → ∃ cap, narrow = some cap ∧ cap ≤ most)
    (goes : s.end? loaded narrow = none) : s.end? loaded wide = none := by
  cases verdict_of goes with
  | writes writing within =>
    rw [end?,stop?_output writing,Option.map_eq_none_iff,Limits.reached?_eq_none]
    intro most isWide
    obtain ⟨cap,isNarrow,le⟩ := wider most isWide
    exact Nat.lt_of_lt_of_le (Limits.reached?_eq_none.mp within cap isNarrow) le
  | other here other => exact end?_other here other

/-- A run that ends on its own under a cap does so under every larger one. -/
theorem EndsAt.wider (wider : ∀ most, wide = some most → ∃ cap, narrow = some cap ∧ cap ≤ most) {n : Nat}
    (ends : EndsAt loaded narrow s n .finished) : EndsAt loaded wide s n .finished := by
  generalize isFinished : Ending.finished = ending at ends
  induction ends with
  | here ends =>
    subst isFinished
    exact .here (end?_of_ended (of_stop?_finished ends))
  | later goes _ ih => exact .later (end?_none_of_wider wider goes) (ih isFinished)

end State

namespace Machine
variable {narrow wide : Limits} {size : Nat} {program : Program} {input : Bytes}

/-- A call that returns returns the same, in the same state, under limits that allow no less. -/
theorem call_of_within (within : narrow.Within wide) {bytes : Bytes}
    (returned : (call size narrow program input).1 = .ok bytes) :
    call size wide program input = call size narrow program input := by
  cases loads : load program input with
  | error fault =>
    have rejected : (call size narrow program input).1 = _ := call_eq_bracket.mpr (load_eq_error.mp loads)
    cases returned.symm.trans rejected
  | ok loaded =>
    have unlimited : (call size narrow program input).1 ≠ .error (.fault (.stepLimit (.ofNat narrow.steps))) := by
      rw [returned]
      exact nofun
    obtain ⟨n,ending,endsAt,enough⟩ := exists_endsAt loads unlimited
    have given := call_of_endsAt loads endsAt enough
    have isFinished : ending = .finished := by
      rw [given] at returned
      cases ending with
      | finished => rfl
      | refused reason => exact reason.elim
      | _ => cases returned
    subst isFinished
    have enoughToo : n + (Ending.finished : Ending Empty).begun ≤ wide.steps := Nat.le_trans enough within.steps
    exact (call_of_endsAt loads (endsAt.wider within.output) enoughToo).trans given.symm

end Machine

namespace Trial

/-- A trial that succeeds is the same under limits that allow no less. -/
theorem ofLimits_of_within {narrow wide : Limits} (within : narrow.Within wide) {program input : Source}
    (succeeds : (ofLimits narrow program input).ok) :
    ofLimits wide program input = ofLimits narrow program input := by
  rw [ofLimits_eq] at succeeds
  rw [ofLimits_eq,ofLimits_eq]
  rcases ofCall_cases (Machine.call Machine.defaultSize narrow program.program input.feed) with
    ⟨fails,-⟩ | ⟨-,bytes,returned,-⟩
  · exact absurd succeeds fails
  · rw [Machine.call_of_within within returned]

theorem standard_of_settings {session : Session} {settings : Settings}
    (read : (Session.settings session).1 = .ok settings) (program input : Source) :
    (standard program input session).1 = .ok (ofLimits settings.limits program input) := by
  rw [standard,Action.bind_of_fst read]
  rfl

end Trial

namespace Score
open Scalar

/-! ### Scores under two settings -/

section
variable {narrow wide : Settings} (within : narrow.limits.Within wide.limits)
  (exercise : Exercise) (program : Source)
include within

/-- What a program writes in a run that succeeds it also writes under limits that allow no less. -/
theorem output_of_within {input bytes : Bytes} (written : output narrow program input = some bytes) :
    output wide program input = some bytes := by
  have succeeds : (Trial.ofLimits narrow.limits program (.bytes input)).ok := by
    rw [output,Trial.ofLimits_eq] at written
    rw [Trial.ofLimits_eq]
    rcases Trial.ofCall_cases (Machine.call _ narrow.limits program.program _) with ⟨-,noOutput⟩ | ⟨succeeds,-⟩
    · cases noOutput.symm.trans written
    · exact succeeds
  exact (congrArg Trial.output (Trial.ofLimits_of_within within succeeds)).trans written

theorem hits_le : hits narrow exercise program ≤ hits wide exercise program := by
  refine List.countP_mono_left fun e _ hit => ?_
  rw [decide_eq_true_eq] at hit ⊢
  exact output_of_within within program hit

theorem exactUnder_le : exactUnder narrow exercise program ≤ (exactUnder wide exercise program : Rat) := by
  have more : (hits narrow exercise program : Rat) ≤ hits wide exercise program :=
    Nat.cast_le.mpr (hits_le within exercise program)
  exact div_le_div_of_nonneg_right more (Nat.cast_nonneg _)

/-- A run that fails has the full error, so that no other run in its place has more. -/
theorem error_le (input expected : Bytes) :
    error (output wide program input) expected ≤ (error (output narrow program input) expected : Rat) := by
  cases written : output narrow program input with
  | none => exact error_le_one _ expected
  | some bytes => rw [output_of_within within program written]

theorem closeUnder_le : closeUnder narrow exercise program ≤ (closeUnder wide exercise program : Rat) := by
  rw [closeUnder_eq,closeUnder_eq]
  have less := List.sum_le_sum fun e (_ : e ∈ exercise.examples) => error_le within program e.input e.expected
  exact sub_le_sub_left (div_le_div_of_nonneg_right less (Nat.cast_nonneg _)) 1

end

/-- A better score is no worse after its penalty. -/
theorem penalised_mono (alpha : Rat) {base better : Rat} (le : base ≤ better) (length : Nat) :
    penalised alpha base length ≤ penalised alpha better length := by
  rcases le_or_gt alpha 0 with nonpos | positive
  · rw [penalised_of_nonpos nonpos,penalised_of_nonpos nonpos]
    exact le
  · rw [penalised_eq_max positive,penalised_eq_max positive]
    exact max_le_max_left 0 (sub_le_sub_right le _)

/-! ### Scores in two sessions -/

section
variable {session another : Session} {narrow wide : Settings}

/-- A score in a session is that under its settings, if there are examples. -/
theorem inSession_of_settings {score : Settings → Exercise → Source → Rat}
    (read : (Session.settings session).1 = .ok narrow) (exercise : Exercise) (program : Source) :
    (inSession score exercise program session).1 =
      .ok (if exercise.examples.isEmpty then 0 else score narrow exercise program) := by
  by_cases empty : exercise.examples.isEmpty
  · rw [inSession,if_pos empty,if_pos empty]
    rfl
  · rw [inSession,if_neg empty,if_neg empty,Action.bind_of_fst read]
    rfl

/-- There are two scores, and the second one is no less than the first. -/
def NoLess (first second : Except SettingError Rat) : Prop :=
  ∃ low high, first = .ok low ∧ second = .ok high ∧ low ≤ high

theorem inSession_noLess {score : Settings → Exercise → Source → Rat} {exercise : Exercise} {program : Source}
    (readNarrow : (Session.settings session).1 = .ok narrow) (readWide : (Session.settings another).1 = .ok wide)
    (le : score narrow exercise program ≤ score wide exercise program) :
    NoLess (inSession score exercise program session).1 (inSession score exercise program another).1 := by
  refine ⟨_,_,inSession_of_settings readNarrow exercise program,inSession_of_settings readWide exercise program,?_⟩
  split
  · exact le_refl 0
  · exact le

theorem exactPenalised_of_exact {exercise : Exercise} {program : Source} {base : Rat} (alpha : Rat)
    (scored : (exact exercise program session).1 = .ok base) :
    (exactPenalised alpha exercise program session).1 = .ok (penalised alpha base program.length) := by
  rw [exactPenalised,Action.bind_of_fst scored]
  rfl

/-- In two sessions of which the second allows no fewer steps and no less output, every trial that succeeds in the
    first one is the same in the second one, and no score in the first one is more than in the second one. -/
theorem le_of_wider (readNarrow : (Session.settings session).1 = .ok narrow)
    (readWide : (Session.settings another).1 = .ok wide) (steps : narrow.stepLimit ≤ wide.stepLimit)
    (outputs : narrow.outputLimit ≤ wide.outputLimit) (exercise : Exercise) (program : Source) :
    (∀ e ∈ exercise.examples, ∃ trial retrial,
      (Trial.standard program (.bytes e.input) session).1 = .ok trial ∧
      (Trial.standard program (.bytes e.input) another).1 = .ok retrial ∧
      (trial.ok → retrial.ok ∧ retrial.output = trial.output ∧ retrial.steps = trial.steps ∧
        retrial.reads = trial.reads)) ∧
    NoLess (exact exercise program session).1 (exact exercise program another).1 ∧
    NoLess (close exercise program session).1 (close exercise program another).1 ∧
    ∀ alpha : Option Rat,
      NoLess (ranking alpha exercise program session).1 (ranking alpha exercise program another).1 := by
  have within : narrow.limits.Within wide.limits := by
    refine ⟨steps,?_⟩
    rintro most ⟨⟩
    exact ⟨narrow.outputLimit,rfl,outputs⟩
  have exactLe := inSession_noLess readNarrow readWide (exactUnder_le within exercise program)
  refine ⟨?_,exactLe,?_,?_⟩
  · intro e _
    refine ⟨_,_,Trial.standard_of_settings readNarrow ..,Trial.standard_of_settings readWide ..,fun succeeds => ?_⟩
    rw [Trial.ofLimits_of_within within succeeds]
    exact ⟨succeeds,rfl,rfl,rfl⟩
  · exact inSession_noLess readNarrow readWide (closeUnder_le within exercise program)
  · intro alpha
    obtain ⟨low,high,isLow,isHigh,le⟩ := exactLe
    exact ⟨_,_,exactPenalised_of_exact _ isLow,exactPenalised_of_exact _ isHigh,penalised_mono _ le program.length⟩

end

/-- A program of two comments, with one step and with two. -/
theorem le_of_wider_quiet :
    let session : Session := ⟨4,[],[],some ⟨1,0,true,1⟩⟩
    let another : Session := ⟨4,[],[],some ⟨2,0,true,1⟩⟩
    let quiet : Exercise := ⟨lit "quiet",[⟨[1],[]⟩]⟩
    let program : Source := .text (lit "ab")
    (exact quiet program session).1 = .ok (0 : Rat) ∧ (exact quiet program another).1 = .ok (1 : Rat) ∧
      NoLess (ranking none quiet program session).1 (ranking none quiet program another).1 := by
  intro session another quiet program
  have readNarrow : (Session.settings session).1 = .ok ⟨1,0,true,1⟩ := rfl
  have readWide : (Session.settings another).1 = .ok ⟨2,0,true,1⟩ := rfl
  obtain ⟨-,-,-,ranks⟩ := le_of_wider readNarrow readWide (by decide) (by decide) quiet program
  exact ⟨by decide +kernel,by decide +kernel,ranks none⟩

end Score

end TapeArena
