import Mathlib.Order.Monotone.Basic
import TapeArena.Proofs.Perfection

/-!
How programs rank by the exact score less the penalty for their length. The penalty grows with the length and never
reaches `alpha` (`penalty_strictMono`, `penalty_lt`). As long as one example is worth at least `alpha`, it weighs more
than any penalty: whatever is reproduced leaves a positive score, one example more outweighs every length, and among
equal numbers of examples the shorter program wins (`exactPenalised_ranks`).
-/
namespace TapeArena.Score
open Scalar
variable {alpha : Rat}

/-! ### Penalties -/

section
variable (positive : 0 < alpha)
include positive

theorem penalty_eq (length : Nat) : penalty alpha length = alpha * (length / (length + halfLength : Nat)) := by
  have applies : ¬ atMost alpha zero := fun isNone => not_le.mpr positive (of_decide_eq_true isNone)
  rw [penalty,if_neg applies,Nat.cast_add]
  rfl

theorem penalty_nonneg (length : Nat) : 0 ≤ penalty alpha length := by
  rw [penalty_eq positive]
  exact mul_nonneg positive.le (div_nonneg (Nat.cast_nonneg _) (Nat.cast_nonneg _))

theorem penalty_lt (length : Nat) : penalty alpha length < alpha := by
  have whole : (0 : Rat) < (length + halfLength : Nat) := Nat.cast_pos.mpr (Nat.add_pos_right _ (by decide))
  have share : (length / (length + halfLength : Nat) : Rat) < 1 := by
    rw [div_lt_one whole,Nat.cast_lt]
    exact Nat.lt_add_of_pos_right (by decide)
  rw [penalty_eq positive]
  exact mul_lt_of_lt_one_right positive share

theorem penalty_strictMono : StrictMono (penalty alpha) := by
  intro shorter longer lt
  have whole : ∀ length : Nat, (0 : Rat) < (length + halfLength : Nat) :=
    fun length => Nat.cast_pos.mpr (Nat.add_pos_right _ (by decide))
  rw [penalty_eq positive,penalty_eq positive]
  refine mul_lt_mul_of_pos_left ?_ positive
  rw [div_lt_div_iff₀ (whole shorter) (whole longer)]
  norm_cast
  rw [Nat.mul_add,Nat.mul_add,Nat.mul_comm longer shorter]
  exact Nat.add_lt_add_left (Nat.mul_lt_mul_of_pos_right lt (by decide)) _

/-! ### Penalised scores -/

theorem penalised_nonneg (base : Rat) (length : Nat) : 0 ≤ penalised alpha base length := by
  rw [penalised_eq_max positive]
  exact le_max_left ..

theorem penalised_le {base : Rat} (nonneg : 0 ≤ base) (length : Nat) : penalised alpha base length ≤ base := by
  rw [penalised_eq_max positive]
  exact max_le nonneg (sub_le_self base (penalty_nonneg positive length))

theorem penalised_zero (length : Nat) : penalised alpha 0 length = 0 :=
  le_antisymm (penalised_le positive (le_refl 0) length) (penalised_nonneg positive 0 length)

/-- A score of at least `alpha` is more than its penalty, so nothing is cut off. -/
theorem penalised_of_le {base : Rat} (enough : alpha ≤ base) (length : Nat) :
    penalised alpha base length = base - penalty alpha length := by
  rw [penalised_eq_max positive]
  exact max_eq_right (sub_nonneg.mpr ((penalty_lt positive length).le.trans enough))

/-- A score that is better by at least `alpha` stays better, whatever the lengths. -/
theorem penalised_lt_of_add_le {base better : Rat} (nonneg : 0 ≤ base) (gap : base + alpha ≤ better)
    (length another : Nat) : penalised alpha base length < penalised alpha better another := by
  have enough : alpha ≤ better := (le_add_of_nonneg_left nonneg).trans gap
  rw [penalised_of_le positive enough]
  calc penalised alpha base length ≤ base := penalised_le positive nonneg length
    _ ≤ better - alpha := le_sub_iff_add_le.mpr gap
    _ < better - penalty alpha another := sub_lt_sub_left (penalty_lt positive another) better

/-- Of two equal scores of at least `alpha`, that of the shorter program stays better. -/
theorem penalised_lt_of_length_lt {base : Rat} (enough : alpha ≤ base) {shorter longer : Nat} (lt : shorter < longer) :
    penalised alpha base longer < penalised alpha base shorter := by
  rw [penalised_of_le positive enough,penalised_of_le positive enough]
  exact sub_lt_sub_left (penalty_strictMono positive lt) base

end

/-! ### Ranks -/

/-- The exact score in a session; without examples the share is zero as well. -/
theorem exact_of_settings {session : Session} {settings : Settings}
    (read : (Session.settings session).1 = .ok settings) (exercise : Exercise) (program : Source) :
    (exact exercise program session).1 = .ok (exactUnder settings exercise program : Rat) := by
  refine (inSession_of_settings read exercise program).trans (congrArg Except.ok ?_)
  split
  · rename_i empty
    have none : (exercise.examples.length : Rat) = 0 := Nat.cast_eq_zero.mpr (by simpa using empty)
    rw [exactUnder_eq,none,div_zero]
  · rfl

section
variable {settings : Settings} {exercise : Exercise} (small : alpha * exercise.examples.length ≤ 1)
include small

/-- One more example is worth at least `alpha`. -/
theorem share_add_le {fewer more : Nat} (lt : fewer < more) (inside : more ≤ exercise.examples.length) :
    (fewer / exercise.examples.length : Rat) + alpha ≤ more / exercise.examples.length := by
  have some_example : (0 : Rat) < exercise.examples.length := Nat.cast_pos.mpr (by omega)
  have oneMore : (fewer : Rat) + 1 ≤ more := by exact_mod_cast lt
  rw [le_div_iff₀ some_example,add_mul,div_mul_cancel₀ _ some_example.ne']
  exact (add_le_add_right small _).trans oneMore

theorem le_share {count : Nat} (some_reproduced : 0 < count) (inside : count ≤ exercise.examples.length) :
    alpha ≤ (count / exercise.examples.length : Rat) := by
  have gap := share_add_le small some_reproduced inside
  rwa [Nat.cast_zero,zero_div,zero_add] at gap

end

/-- In a session with settings, for any positive `alpha`, the penalised score lies between zero and the exact score, and
    the penalty grows with the length and stays below `alpha`. If one example is worth at least `alpha`, a program that
    reproduces more examples than another has the better score whatever their lengths; of two programs that reproduce
    the same positive number the shorter one has the better score, and with the same length they have the same; programs
    that reproduce nothing have none. -/
theorem exactPenalised_ranks {session : Session} {settings : Settings}
    (read : (Session.settings session).1 = .ok settings) (positive : 0 < alpha) (exercise : Exercise) :
    let reproduced := fun program => exercise.examples.countP (Reproduces settings program ·)
    ∃ exactly score : Source → Rat,
      (∀ program, (exact exercise program session).1 = .ok (exactly program) ∧
        (exactPenalised alpha exercise program session).1 = .ok (score program) ∧
        (ranking (some alpha) exercise program session).1 = .ok (score program)) ∧
      (alpha * exercise.examples.length ≤ 1 → ∀ a b : Source,
        (reproduced b < reproduced a → score b < score a) ∧
        (reproduced a = reproduced b → 0 < reproduced a →
          (a.length < b.length → score b < score a) ∧ (a.length = b.length → score a = score b)) ∧
        (reproduced a = 0 → reproduced b = 0 → score a = 0 ∧ score b = 0)) ∧
      (∀ program, 0 ≤ score program ∧ score program ≤ exactly program) ∧
      (∀ length, 0 ≤ penalty alpha length ∧ penalty alpha length < alpha) ∧
      ∀ shorter longer, shorter < longer → penalty alpha shorter < penalty alpha longer := by
  intro reproduced
  let exactly : Source → Rat := exactUnder settings exercise
  have share : ∀ program, exactly program = reproduced program / exercise.examples.length :=
    exactUnder_eq settings exercise
  have nonneg : ∀ program, 0 ≤ exactly program := exactUnder_nonneg settings
  have inside : ∀ program, reproduced program ≤ exercise.examples.length := fun _ => List.countP_le_length
  refine ⟨exactly,fun program => penalised alpha (exactly program) program.length,?_,?_,?_,?_,?_⟩
  · intro program
    have isExact := exact_of_settings read exercise program
    have isScore := exactPenalised_of_exact alpha isExact
    exact ⟨isExact,isScore,isScore⟩
  · intro small a b
    refine ⟨?_,?_,?_⟩
    · intro more
      refine penalised_lt_of_add_le positive (nonneg b) ?_ _ _
      rw [share,share]
      exact share_add_le small more (inside a)
    · intro same some_reproduced
      have equal : exactly a = exactly b := by rw [share,share,same]
      have enough : alpha ≤ exactly b := by
        rw [← equal,share]
        exact le_share small some_reproduced (inside a)
      refine ⟨fun lt => ?_,fun sameLength => ?_⟩
      · show penalised alpha (exactly b) b.length < penalised alpha (exactly a) a.length
        rw [equal]
        exact penalised_lt_of_length_lt positive enough lt
      · show penalised alpha (exactly a) a.length = penalised alpha (exactly b) b.length
        rw [equal,sameLength]
    · intro noneA noneB
      have noShare : ∀ program, reproduced program = 0 → penalised alpha (exactly program) program.length = 0 := by
        intro program none
        rw [share,none,Nat.cast_zero,zero_div,penalised_zero positive]
      exact ⟨noShare a noneA,noShare b noneB⟩
  · exact fun program => ⟨penalised_nonneg positive _ _,penalised_le positive (nonneg program) _⟩
  · exact fun length => ⟨penalty_nonneg positive length,penalty_lt positive length⟩
  · exact fun _ _ lt => penalty_strictMono positive lt

/-- An echo and the empty program on two examples, of which the empty program only reproduces the first one. -/
theorem exactPenalised_ranks_echo :
    let settings : Settings := ⟨20,9,true,1⟩
    let session : Session := ⟨4,[],[],some settings⟩
    let echo : Source := .text (lit ",[.,]")
    let empty : Source := .text []
    let exercise : Exercise := ⟨lit "echo",[⟨[],[]⟩,⟨[1],[1]⟩]⟩
    ∃ low high : Rat, (exactPenalised (1 / 2) exercise empty session).1 = .ok low ∧
      (exactPenalised (1 / 2) exercise echo session).1 = .ok high ∧ low < high := by
  intro settings session echo empty exercise
  have read : (Session.settings session).1 = .ok settings := rfl
  have positive : (0 : Rat) < 1 / 2 := one_half_pos
  have small : (1 / 2 : Rat) * exercise.examples.length ≤ 1 := by decide +kernel
  obtain ⟨exactly,score,scores,ranks,-⟩ := exactPenalised_ranks read positive exercise
  have more : exercise.examples.countP (Reproduces settings empty ·) <
      exercise.examples.countP (Reproduces settings echo ·) := by decide +kernel
  exact ⟨_,_,(scores empty).2.1,(scores echo).2.1,(ranks small echo empty).1 more⟩

end TapeArena.Score
