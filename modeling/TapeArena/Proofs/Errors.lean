import TapeArena.Proofs.Scores

/-!
The error of one example. Two bytes are apart unless they are the same (`circular_eq_zero`), and every byte that
is missing or too many counts, so an output has no error units only if it is the expected one (`units_eq_zero`).
The error of an example is at least zero (`error_nonneg`), at most one (`error_le_one`), and zero for the expected
output alone (`error_eq_zero`); a program without output has the full error.
-/
namespace TapeArena.Score
open Scalar

theorem circular_eq_zero {a b : UInt8} : circular a b = 0 ↔ a = b := by
  have aBound := a.toNat_lt
  have bBound := b.toNat_lt
  rw [← UInt8.toNat_inj,circular]
  omega

theorem units_eq_zero {actual expected : Bytes} : units actual expected = 0 ↔ actual = expected := by
  induction actual, expected using units.induct with
  | case1 expected => simp [units,fullError,eq_comm]
  | case2 actual nonempty =>
    cases actual with
    | nil => exact absurd rfl nonempty
    | cons a rest => simp [units,fullError]
  | case3 a actual e expected ih => rw [units,Nat.add_eq_zero_iff,circular_eq_zero,ih,List.cons.injEq]

/-- The error of an output before it is cut at one. -/
theorem share_nonneg (actual expected : Bytes) :
    0 ≤ (units actual expected : Rat) / fullError / expected.length :=
  div_nonneg (div_nonneg (Nat.cast_nonneg _) (Nat.cast_nonneg _)) (Nat.cast_nonneg _)

theorem error_none (expected : Bytes) : error none expected = (1 : Rat) := rfl

theorem error_nonneg (actual : Option Bytes) (expected : Bytes) : (0 : Rat) ≤ error actual expected := by
  cases actual with
  | none => exact zero_le_one
  | some actual =>
    by_cases empty : expected = []
    · subst empty
      cases actual with
      | nil => exact le_refl 0
      | cons => exact zero_le_one
    · rw [error_eq_min empty]
      exact le_min zero_le_one (share_nonneg actual expected)

/-- Only the expected output has no error. -/
theorem error_eq_zero {actual : Option Bytes} {expected : Bytes} :
    error actual expected = (0 : Rat) ↔ actual = some expected := by
  cases actual with
  | none => exact iff_of_false one_ne_zero nofun
  | some actual =>
    rw [Option.some.injEq]
    by_cases empty : expected = []
    · subst empty
      cases actual with
      | nil => exact iff_of_true rfl rfl
      | cons => exact iff_of_false one_ne_zero nofun
    · have lengthIs : (expected.length : Rat) ≠ 0 :=
        Nat.cast_ne_zero.mpr (mt List.length_eq_zero_iff.mp empty)
      have unitIs : (fullError : Rat) ≠ 0 := Nat.cast_ne_zero.mpr (by decide)
      have share : (units actual expected : Rat) / fullError / expected.length = 0 ↔ actual = expected := by
        rw [div_eq_zero_iff,or_iff_left lengthIs,div_eq_zero_iff,or_iff_left unitIs,Nat.cast_eq_zero,units_eq_zero]
      rw [error_eq_min empty,← share]
      constructor
      · intro least
        by_contra positive
        have above := lt_of_le_of_ne (share_nonneg actual expected) (Ne.symm positive)
        exact (lt_min one_pos above).ne' least
      · intro none
        rw [none]
        exact min_eq_right zero_le_one

end TapeArena.Score
