import Mathlib.Algebra.BigOperators.Group.Finset.Basic
import Mathlib.Algebra.Order.Field.Rat
import Mathlib.Tactic.Ring
import TapeArena.Score

/-!
Scores in exact arithmetic. Numbers are summed in halves and in lanes; with rational numbers this makes no
difference (`Scalar.sum_eq`), so that the mean is the mean. The tests by which scores are kept within their
bounds are a minimum and a maximum (`Score.error_eq_min`, `Score.penalised_eq_max`).
-/
namespace TapeArena

/-! ### Sums -/

namespace Scalar
open Finset
variable {xs : List Rat}

theorem sumInOrder_eq (start : Rat) (xs : List Rat) : sumInOrder start xs = start + xs.sum := by
  induction xs generalizing start with
  | nil => exact (add_zero start).symm
  | cons x rest ih =>
    rw [List.sum_cons,← add_assoc]
    exact ih (start + x)

/-- The first numbers of a list, summed by their places. -/
theorem sum_take (xs : List Rat) (n : Nat) : (xs.take n).sum = ∑ i ∈ range n, xs.getD i 0 := by
  induction n with
  | zero => simp
  | succ n ih =>
    rw [sum_range_succ,← ih,List.take_add_one,List.sum_append]
    cases found : xs[n]? <;> simp [found]

theorem foldl_range (f : Nat → Rat) (start : Rat) (n : Nat) :
    (List.range n).foldl (fun sum i => sum + f i) start = start + ∑ i ∈ range n, f i := by
  induction n with
  | zero => simp
  | succ n ih => rw [List.range_succ,List.foldl_concat,ih,sum_range_succ,add_assoc]

/-- A lane is the sum of its places in all full rows. -/
theorem lane_eq (full : lanes ≤ xs.length) (place : Nat) :
    lane xs.toArray place = ∑ row ∈ range (xs.length / lanes), xs.getD (row * lanes + place) 0 := by
  have rows : xs.length / lanes = xs.length / lanes - 1 + 1 := by
    have some_row : 0 < xs.length / lanes := Nat.div_pos full (by decide)
    omega
  have places : ∀ i, xs.toArray.getD i zero = xs.getD i 0 := fun i => by simp; rfl
  have summed := foldl_range (fun row => xs.toArray.getD ((row + 1) * lanes + place) zero)
    (xs.toArray.getD place zero) (xs.length / lanes - 1)
  rw [rows,sum_range_succ',add_comm,zero_mul,zero_add]
  simp only [places] at summed
  rw [← summed]
  simp only [lane,places,List.size_toArray]

/-- The places of full rows, summed by lanes. -/
theorem sum_rows (f : Nat → Rat) (rows : Nat) :
    let r := fun place => ∑ row ∈ range rows, f (row * lanes + place)
    ∑ i ∈ range (rows * lanes), f i = ((r 0 + r 1) + (r 2 + r 3)) + ((r 4 + r 5) + (r 6 + r 7)) := by
  intro r
  induction rows with
  | zero => simp [r]
  | succ rows ih =>
    simp only [r,lanes,Nat.succ_mul,sum_range_succ,Nat.add_zero] at ih ⊢
    rw [ih]
    ring

theorem sumBlock_eq (xs : List Rat) : sumBlock xs = xs.sum := by
  unfold sumBlock
  split
  · rw [sumInOrder_eq]
    exact zero_add xs.sum
  · rename_i few
    have full : lanes ≤ xs.length := Nat.le_of_not_lt few
    have inLanes := sum_rows (fun i => xs.getD i 0) (xs.length / lanes)
    rw [← sum_take] at inLanes
    simp only [sumInOrder_eq,lane_eq full]
    refine (congrArg (· + (xs.drop (xs.length / lanes * lanes)).sum) inLanes.symm).trans ?_
    exact List.sum_take_add_sum_drop xs _

theorem sum_eq (xs : List Rat) : sum xs = xs.sum := by
  induction xs using sum.induct with
  | case1 xs long half first second =>
    rw [sum,dif_pos long]
    exact (congrArg₂ (· + ·) first second).trans (List.sum_take_add_sum_drop xs half)
  | case2 xs short => rw [sum,dif_neg short,sumBlock_eq]

theorem mean_eq (xs : List Rat) : mean xs = xs.sum / xs.length :=
  congrArg (· / (xs.length : Rat)) (sum_eq xs)

end Scalar

/-! ### Bounds -/

namespace Score
open Scalar

theorem error_eq_min {actual expected : Bytes} (nonempty : expected ≠ []) :
    error (some actual) expected = min 1 ((units actual expected : Rat) / fullError / expected.length) := by
  have notEmpty : ¬ expected.isEmpty := by simpa using nonempty
  rw [error,if_neg notEmpty]
  by_cases below : (units actual expected : Rat) / fullError / expected.length < 1
  · rw [min_eq_right below.le]
    exact if_pos (decide_eq_true below)
  · rw [min_eq_left (not_lt.mp below)]
    exact if_neg fun isLess => below (of_decide_eq_true isLess)

theorem error_le_one (actual : Option Bytes) (expected : Bytes) : error actual expected ≤ (1 : Rat) := by
  cases actual with
  | none => exact le_refl 1
  | some actual =>
    by_cases empty : expected = []
    · subst empty
      cases actual with
      | nil => exact zero_le_one
      | cons => exact le_refl 1
    · rw [error_eq_min empty]
      exact min_le_left ..

theorem closeUnder_eq (settings : Settings) (exercise : Exercise) (program : Source) :
    closeUnder settings exercise program =
      1 - (exercise.examples.map fun e => error (output settings program e.input) e.expected).sum /
        (exercise.examples.length : Rat) := by
  rw [closeUnder,mean_eq,List.length_map]
  rfl

/-- Where there is a penalty at all, nothing is left below zero. -/
theorem penalised_eq_max {alpha : Rat} (positive : 0 < alpha) (base : Rat) (length : Nat) :
    penalised alpha base length = max 0 (base - penalty alpha length) := by
  have applies : ¬ atMost alpha zero := fun isNone => not_le.mpr positive (of_decide_eq_true isNone)
  rw [penalised,if_neg applies]
  by_cases left : 0 < base - penalty alpha length
  · rw [max_eq_right left.le]
    exact if_pos (decide_eq_true left)
  · rw [max_eq_left (not_lt.mp left)]
    exact if_neg fun isLess => left (of_decide_eq_true isLess)
theorem penalised_of_nonpos {alpha : Rat} (nonpos : alpha ≤ 0) (base : Rat) (length : Nat) :
    penalised alpha base length = base :=
  if_pos (decide_eq_true nonpos)

end Score

end TapeArena
