import Mathlib.Data.Nat.Dist
import Mathlib.Tactic.Positivity
import TapeArena.Proofs.Errors

/-!
How the error grades outputs. Bytes lie on a circle, and the distance of two is the number of steps from one to the
other in the shorter direction (`circular_eq_around`), which is a metric that no rotation changes. What holds of two
bytes holds of the error units of two byte strings: they do not change when both are rotated (`units_map_add`), a byte
that comes closer makes them no larger (`units_set_le`), a byte that was missing neither (`units_concat_le`), one too
many no smaller (`le_units_concat`), and strings of one length obey the triangle inequality (`units_triangle`). The
error of an example is their share of the full error, cut at one, and inherits all of this (`error_grades`).
-/
namespace TapeArena.Score
open Scalar

/-! ### Bytes around the circle -/

/-- The number of steps from one byte to another around the circle, in the direction in which they are fewer. -/
def around (a b : UInt8) : Nat := min (a - b).toNat (b - a).toNat

theorem circular_eq_around (a b : UInt8) : circular a b = around a b := by
  have aBound := a.toNat_lt
  have bBound := b.toNat_lt
  rw [circular,around,UInt8.toNat_sub,UInt8.toNat_sub]
  omega

theorem circular_comm (a b : UInt8) : circular a b = circular b a := by
  rw [circular_eq_around,circular_eq_around,around,around,min_comm]

/-- A rotation of the circle changes no distance. -/
theorem circular_add (a b k : UInt8) : circular (a + k) (b + k) = circular a b := by
  have turned (a b : UInt8) : a + k - (b + k) = a - b := by
    apply UInt8.toNat_inj.mp
    have aBound := a.toNat_lt
    have bBound := b.toNat_lt
    have kBound := k.toNat_lt
    rw [UInt8.toNat_sub,UInt8.toNat_sub,UInt8.toNat_add,UInt8.toNat_add]
    omega
  rw [circular_eq_around,circular_eq_around,around,around,turned,turned]

/-- The two ways from one byte to another lead over the numbers between them and over the end of the circle. -/
theorem circular_eq_dist (a b : UInt8) :
    circular a b = min (Nat.dist a.toNat b.toNat) (256 - Nat.dist a.toNat b.toNat) := by
  have apart : max a.toNat b.toNat - min a.toNat b.toNat = Nat.dist a.toNat b.toNat := by
    rw [Nat.dist]
    omega
  rw [circular,apart]

/-- Three numbers below a bound are at most twice the bound apart, all distances taken together. -/
theorem dist_perimeter {l m n bound : Nat} (first : l < bound) (second : m < bound) (third : n < bound) :
    Nat.dist l m + Nat.dist m n + Nat.dist l n ≤ 2 * bound := by
  simp only [Nat.dist]
  omega

/-- No way is shorter by a third byte. The distances of the numbers obey the triangle inequality in every order, and
    their perimeter is at most twice the circle. -/
theorem circular_triangle (a b c : UInt8) : circular a c ≤ circular a b + circular b c := by
  have direct := Nat.dist.triangle_inequality a.toNat b.toNat c.toNat
  have beforeFirst := Nat.dist.triangle_inequality b.toNat a.toNat c.toNat
  have behindLast := Nat.dist.triangle_inequality a.toNat c.toNat b.toNat
  rw [Nat.dist_comm b.toNat a.toNat] at beforeFirst
  rw [Nat.dist_comm c.toNat b.toNat] at behindLast
  have perimeter := dist_perimeter a.toNat_lt b.toNat_lt c.toNat_lt
  rw [circular_eq_dist,circular_eq_dist,circular_eq_dist]
  omega

/-- No two bytes are further apart than a byte that is missing. -/
theorem circular_le_fullError (a b : UInt8) : circular a b ≤ fullError := by
  rw [circular_eq_dist,fullError]
  omega

/-! ### Error units of two byte strings -/

theorem units_comm (actual expected : Bytes) : units actual expected = units expected actual := by
  induction actual, expected using units.induct with
  | case1 expected => cases expected <;> rfl
  | case2 actual nonempty => cases actual <;> rfl
  | case3 a actual e expected ih => rw [units,units,ih,circular_comm]

theorem units_map_add (actual expected : Bytes) (k : UInt8) :
    units (actual.map (· + k)) (expected.map (· + k)) = units actual expected := by
  induction actual, expected using units.induct with
  | case1 expected => simp [units]
  | case2 actual nonempty =>
    cases actual with
    | nil => rfl
    | cons a rest => simp [units]
  | case3 a actual e expected ih => rw [List.map_cons,List.map_cons,units,units,circular_add,ih]

theorem units_set_le {actual expected : Bytes} {i : Nat} (here : i < actual.length) (there : i < expected.length)
    {byte : UInt8} (closer : circular byte expected[i] ≤ circular actual[i] expected[i]) :
    units (actual.set i byte) expected ≤ units actual expected := by
  induction actual generalizing expected i with
  | nil => cases here
  | cons a actual ih =>
    cases expected with
    | nil => cases there
    | cons e expected =>
      cases i with
      | zero =>
        rw [List.set_cons_zero,units,units]
        exact Nat.add_le_add_right closer _
      | succ i =>
        rw [List.set_cons_succ,units,units]
        exact Nat.add_le_add_left (ih (Nat.lt_of_succ_lt_succ here) (Nat.lt_of_succ_lt_succ there) closer) _

/-- A byte in a place that was empty is at most as wrong as none. -/
theorem units_concat_le {actual expected : Bytes} (shorter : actual.length < expected.length) (byte : UInt8) :
    units (actual ++ [byte]) expected ≤ units actual expected := by
  induction actual generalizing expected with
  | nil =>
    cases expected with
    | nil => cases shorter
    | cons e expected =>
      have apart := circular_le_fullError byte e
      rw [List.nil_append,units,units,units,List.length_cons,Nat.mul_succ]
      omega
  | cons a actual ih =>
    cases expected with
    | nil => cases shorter
    | cons e expected =>
      rw [List.cons_append,units,units]
      exact Nat.add_le_add_left (ih (Nat.lt_of_succ_lt_succ shorter)) _

/-- A byte that is too many counts in full. -/
theorem le_units_concat {actual expected : Bytes} (longer : expected.length ≤ actual.length) (byte : UInt8) :
    units actual expected ≤ units (actual ++ [byte]) expected := by
  induction expected generalizing actual with
  | nil =>
    rw [units_comm actual,units_comm (actual ++ [byte]),units,units,List.length_append]
    exact Nat.mul_le_mul_left _ (Nat.le_add_right _ _)
  | cons e expected ih =>
    cases actual with
    | nil => cases longer
    | cons a actual =>
      rw [List.cons_append,units,units]
      exact Nat.add_le_add_left (ih (Nat.le_of_succ_le_succ longer)) _

theorem units_triangle {actual middle expected : Bytes} (first : actual.length = middle.length)
    (second : middle.length = expected.length) :
    units actual expected ≤ units actual middle + units middle expected := by
  induction middle generalizing actual expected with
  | nil =>
    obtain rfl := List.length_eq_zero_iff.mp first
    obtain rfl := List.length_eq_zero_iff.mp second.symm
    exact Nat.zero_le _
  | cons m middle ih =>
    cases actual with
    | nil => cases first
    | cons a actual =>
      cases expected with
      | nil => cases second
      | cons e expected =>
        have heads := circular_triangle a m e
        have tails := ih (Nat.succ.inj first) (Nat.succ.inj second)
        rw [units,units,units]
        omega

/-! ### Errors of one example -/

theorem error_mono {one other expected : Bytes} (nonempty : expected ≠ [])
    (fewer : units one expected ≤ units other expected) :
    (error (some one) expected : Rat) ≤ error (some other) expected := by
  rw [error_eq_min nonempty,error_eq_min nonempty]
  gcongr

/-- What is cut at one still obeys the triangle inequality. -/
theorem min_one_triangle {whole first second : Rat} (nonneg : 0 ≤ first) (nonnegToo : 0 ≤ second)
    (triangle : whole ≤ first + second) : min 1 whole ≤ min 1 first + min 1 second := by
  rcases le_total 1 first with cut | within
  · rw [min_eq_left cut]
    exact (min_le_left 1 whole).trans (le_add_of_nonneg_right (le_min zero_le_one nonnegToo))
  rcases le_total 1 second with cut | withinToo
  · rw [min_eq_left cut]
    exact (min_le_left 1 whole).trans (le_add_of_nonneg_left (le_min zero_le_one nonneg))
  · rw [min_eq_right within,min_eq_right withinToo]
    exact (min_le_right 1 whole).trans triangle

theorem error_triangle {actual middle expected : Bytes} (first : actual.length = middle.length)
    (second : middle.length = expected.length) (nonempty : expected ≠ []) :
    (error (some actual) expected : Rat) ≤ error (some actual) middle + error (some middle) expected := by
  have middleNonempty : middle ≠ [] := by
    rintro rfl
    exact nonempty (List.length_eq_zero_iff.mp second.symm)
  rw [error_eq_min nonempty,error_eq_min nonempty,error_eq_min middleNonempty,second]
  have triangle : (units actual expected : Rat) ≤ units actual middle + units middle expected := by
    exact_mod_cast units_triangle first second
  apply min_one_triangle
  · exact second ▸ share_nonneg actual middle
  · exact share_nonneg middle expected
  · rw [← add_div,← add_div]
    gcongr

/-- The error of an output is between zero and one, and zero for the expected output alone; if nothing is expected,
    every other output has the full error. Otherwise it does not change when all bytes on both sides are rotated, it
    does not grow when a byte comes closer to the expected one or a missing byte is added, it does not shrink when
    another byte too many is added, and between outputs of one length it is a metric. -/
theorem error_grades (actual expected : Bytes) :
    let off (actual expected : Bytes) : Rat := error (some actual) expected
    (0 ≤ off actual expected ∧ off actual expected ≤ 1) ∧
    (off actual expected = 0 ↔ actual = expected) ∧
    (expected = [] → actual ≠ [] → off actual expected = 1) ∧
    (expected ≠ [] →
      (∀ k, off (actual.map (· + k)) (expected.map (· + k)) = off actual expected) ∧
      (∀ i byte, (here : i < actual.length) → (there : i < expected.length) →
        around byte expected[i] ≤ around actual[i] expected[i] →
          off (actual.set i byte) expected ≤ off actual expected) ∧
      (∀ byte, actual.length < expected.length → off (actual ++ [byte]) expected ≤ off actual expected) ∧
      (∀ byte, expected.length ≤ actual.length → off actual expected ≤ off (actual ++ [byte]) expected) ∧
      (actual.length = expected.length → off actual expected = off expected actual ∧
        ∀ middle, middle.length = expected.length →
          off actual expected ≤ off actual middle + off middle expected)) := by
  intro off
  refine ⟨⟨error_nonneg _ _,error_le_one _ _⟩,?_,?_,fun nonempty => ⟨?_,?_,?_,?_,fun sameLength => ⟨?_,?_⟩⟩⟩
  · exact error_eq_zero.trans (Option.some_inj)
  · rintro rfl something
    cases actual with
    | nil => exact absurd rfl something
    | cons a rest => rfl
  · intro k
    have nonemptyToo : expected.map (· + k) ≠ [] := by simpa using nonempty
    simp only [off,error_eq_min nonempty,error_eq_min nonemptyToo,units_map_add,List.length_map]
  · intro i byte here there closer
    rw [← circular_eq_around,← circular_eq_around] at closer
    exact error_mono nonempty (units_set_le here there closer)
  · exact fun byte shorter => error_mono nonempty (units_concat_le shorter byte)
  · exact fun byte longer => error_mono nonempty (le_units_concat longer byte)
  · have nonemptyToo : actual ≠ [] := by
      rintro rfl
      exact nonempty (List.length_eq_zero_iff.mp sameLength.symm)
    simp only [off,error_eq_min nonempty,error_eq_min nonemptyToo,units_comm actual,sameLength]
  · exact fun middle middleLength => error_triangle (sameLength.trans middleLength.symm) middleLength nonempty

/-- A byte that comes closer across the end of the circle, a byte too many, and a way round by a third output. -/
theorem error_grades_wrapped :
    let off (actual expected : Bytes) : Rat := error (some actual) expected
    around 254 2 ≤ around 250 2 ∧ off [254,3] [2,4] ≤ off [250,3] [2,4] ∧ off [250,3] [2,4] = 9 / 256 ∧
      off [250,3] [2,4] ≤ off [250,3,4] [2,4] ∧ off [250,3] [2,4] = off [2,4] [250,3] ∧
      off [250,3] [2,4] ≤ off [250,3] [0,4] + off [0,4] [2,4] := by
  intro off
  have closer : around 254 2 ≤ around 250 2 := by decide
  obtain ⟨-,-,-,graded⟩ := error_grades [250,3] [2,4]
  obtain ⟨-,nearer,-,surplus,metric⟩ := graded (by decide)
  obtain ⟨symmetric,triangle⟩ := metric rfl
  have value : off [250,3] [2,4] = 9 / 256 := by decide +kernel
  exact ⟨closer,nearer 0 254 (by decide) (by decide) closer,value,surplus 4 (by decide),symmetric,triangle [0,4] rfl⟩

end TapeArena.Score
