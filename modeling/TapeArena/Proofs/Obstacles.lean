import TapeArena.Datum
import TapeArena.Proofs.Traversals

/-!
What keeps a value from being written. Writing goes through the parts of a value in order, and ends at a part that is
nested deeper than there is room for, or that is a number with too many digits (`Obstructs`). So a value is written if
and only if all its parts can be (`obstacle?_eq_none_iff`), and otherwise the first part that cannot be written tells
what is wrong (`obstacle?_eq_some_iff`). Lists may be nested exactly as deep as there is room (`obstacle?_nested`).
-/
namespace TapeArena.Datum
open Traversal
variable {room : Nat} {value : Datum} {part : Nat × Datum} {obstacle : Obstacle}

/-- A part of a value can be written: there is room for its level, and it is no number that is too long. -/
def Fits (room : Nat) (part : Nat × Datum) : Prop := part.1 ≤ room ∧ ¬ part.2.isLong

/-- Why a part of a value cannot be written; its level is looked at first. -/
inductive Obstructs (room : Nat) : Nat × Datum → Obstacle → Prop
  | tooDeep {part : Nat × Datum} (deep : room < part.1) : Obstructs room part .tooDeep
  | longNumber {part : Nat × Datum} (near : part.1 ≤ room) (long : part.2.isLong) : Obstructs room part .longNumber

theorem obstacleAt?_eq_none_iff : obstacleAt? room part = none ↔ Fits room part := by
  unfold obstacleAt? Fits
  split
  · rename_i deep
    exact iff_of_false nofun fun fits => absurd fits.1 (Nat.not_le.mpr deep)
  · split
    · rename_i long
      exact iff_of_false nofun fun fits => fits.2 long
    · rename_i near short
      exact iff_of_true rfl ⟨Nat.not_lt.mp near,short⟩
theorem obstacleAt?_eq_some_iff : obstacleAt? room part = some obstacle ↔ Obstructs room part obstacle := by
  rw [obstacleAt?]
  constructor
  · intro found
    split at found
    · rename_i deep
      cases found
      exact .tooDeep deep
    · rename_i near
      split at found
      · rename_i long
        cases found
        exact .longNumber (Nat.not_lt.mp near) long
      · cases found
  · rintro (deep | ⟨near,long⟩)
    · exact if_pos deep
    · rw [if_neg (Nat.not_lt.mpr near),if_pos long]

theorem obstacle?_eq_none_iff : obstacle? room value = none ↔ ∀ part ∈ value.parts 0, Fits room part := by
  rw [obstacle?,List.findSome?_eq_none_iff]
  exact forall₂_congr fun _ _ => obstacleAt?_eq_none_iff
theorem obstacle?_eq_some_iff : obstacle? room value = some obstacle ↔
    FirstFault (Fits room) (Obstructs room) (value.parts 0) obstacle :=
  FirstFault.findSome?_iff (fun _ => obstacleAt?_eq_none_iff) fun _ => obstacleAt?_eq_some_iff

theorem Fits.mono {more : Nat} (le : room ≤ more) (fits : Fits room part) : Fits more part := ⟨Nat.le_trans fits.1 le,fits.2⟩

/-! ### Nested lists -/

/-- An empty list in a number of lists, each in the next one. -/
def nested : Nat → Datum
  | 0 => .list []
  | depth + 1 => .list [nested depth]

/-- The lists lie on the levels from the outermost to the innermost one. -/
theorem mem_parts_nested {depth level : Nat} : part ∈ (nested depth).parts level ↔
    ∃ inner ≤ depth, part = (level + (depth - inner),nested inner) := by
  induction depth generalizing level with
  | zero => simp [nested,parts,partsOfAll]
  | succ depth ih =>
    have split : part ∈ (nested (depth + 1)).parts level ↔
        part = (level,nested (depth + 1)) ∨ part ∈ (nested depth).parts (level + 1) := by
      simp [nested,parts,partsOfAll]
    rw [split,ih]
    constructor
    · rintro (rfl | ⟨inner,below,rfl⟩)
      · exact ⟨depth + 1,Nat.le_refl _,by simp⟩
      · exact ⟨inner,by omega,by congr 1; omega⟩
    · rintro ⟨inner,below,rfl⟩
      rcases Nat.lt_or_eq_of_le below with below | rfl
      · exact .inr ⟨inner,by omega,by congr 1; omega⟩
      · exact .inl (by simp)

/-- However much room there is, it is how deep lists may be nested: one list more around them is too deep. -/
theorem obstacle?_nested (room depth : Nat) :
    obstacle? room (nested depth) = if depth ≤ room then none else some .tooDeep := by
  have short : ∀ inner, ¬ (nested inner).isLong := fun inner => by cases inner <;> exact Bool.false_ne_true
  split
  · rename_i near
    refine obstacle?_eq_none_iff.mpr fun part member => ?_
    obtain ⟨inner,below,rfl⟩ := mem_parts_nested.mp member
    exact ⟨by omega,short inner⟩
  · rename_i far
    cases writing : obstacle? room (nested depth) with
    | none =>
      have innermost := (obstacle?_eq_none_iff.mp writing _ (mem_parts_nested.mpr ⟨0,Nat.zero_le _,rfl⟩)).1
      omega
    | some obstacle =>
      obtain ⟨part,member,obstructs⟩ := (obstacle?_eq_some_iff.mp writing).exists_mem
      obtain ⟨inner,-,rfl⟩ := mem_parts_nested.mp member
      cases obstructs with
      | tooDeep => rfl
      | longNumber near long => exact absurd long (short inner)

end TapeArena.Datum
