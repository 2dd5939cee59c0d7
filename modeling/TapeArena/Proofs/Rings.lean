import TapeArena.Proofs.Unlimited

/-!
Stores on a ring. The ring of a store never changes its size and its pointer never leaves it, whatever is performed
(`Store.OnRing.perform`), so this holds along every run (`State.onRing_after`). The cell under the pointer holds what
was put there last, and a cell that is incremented or decremented wraps around at 256.
-/
namespace TapeArena

/-- A store has a ring of `size` cells, and its pointer stands on one of them. -/
structure Store.OnRing (size : Nat) (store : Store) : Prop where
  ring : store.cells.size = size
  inside : store.pointer < size

namespace Store

theorem onRing_initial {size : Nat} (nonempty : 1 ≤ size) : (initial size).OnRing size :=
  ⟨Array.size_replicate,nonempty⟩

@[simp] theorem put_put (store : Store) (first second : UInt8) : (store.put first).put second = store.put second := by
  simp [put]

theorem increment_toNat (store : Store) : ((store.current.toNat : Int) + 1) % 256 = (store.current + 1).toNat := by
  rw [UInt8.toNat_add]
  rfl
theorem decrement_toNat (store : Store) :
    ((store.current.toNat : Int) - 1 + 256) % 256 = (store.current - 1).toNat := by
  have one : UInt8.toNat 1 = 1 := rfl
  rw [UInt8.toNat_sub]
  omega

namespace OnRing
variable {size : Nat} {store : Store} (onRing : store.OnRing size)
include onRing

theorem current_eq : store.cells[store.pointer]? = some store.current := by
  have inside : store.pointer < store.cells.size := onRing.ring ▸ onRing.inside
  simp [current,inside]
theorem current_put (value : UInt8) : (store.put value).current = value := by
  have inside : store.pointer < store.cells.size := onRing.ring ▸ onRing.inside
  simp [current,Store.put,inside]
theorem put_current : store.put store.current = store := by
  have same : store.cells.setIfInBounds store.pointer store.current = store.cells := by
    apply Array.ext_getElem?
    intro i
    by_cases here : store.pointer = i
    · rw [← here,Array.getElem?_setIfInBounds_self,if_pos (onRing.ring ▸ onRing.inside),onRing.current_eq]
    · rw [Array.getElem?_setIfInBounds_ne here]
  rw [Store.put,same]

theorem put (value : UInt8) : (store.put value).OnRing size :=
  ⟨Array.size_setIfInBounds.trans onRing.ring,onRing.inside⟩
theorem move (stride : Nat) : OnRing size { store with pointer := (store.pointer + stride) % size } :=
  ⟨onRing.ring,Nat.mod_lt _ (Nat.zero_lt_of_lt onRing.inside)⟩
theorem read (input : Array UInt8) : (store.read input).OnRing size := by
  unfold Store.read
  split
  · exact ⟨(onRing.put _).ring,onRing.inside⟩
  · exact onRing.put 0

theorem perform (input : Array UInt8) (command : Command) : (store.perform input command).OnRing size := by
  cases command with
  | right =>
    simp only [Store.perform,Store.right,onRing.ring]
    exact onRing.move 1
  | left =>
    simp only [Store.perform,Store.left,onRing.ring]
    exact onRing.move (size - 1)
  | increment => exact onRing.put _
  | decrement => exact onRing.put _
  | output => exact ⟨onRing.ring,onRing.inside⟩
  | input => exact onRing.read input
  | loopOpen => exact onRing
  | loopClose => exact onRing
  | comment => exact onRing

end OnRing

end Store

namespace State
variable {loaded : Loaded} {size : Nat} {s : State}

theorem onRing_step (onRing : s.store.OnRing size) : (s.step loaded).store.OnRing size := by
  cases here : s.next loaded with
  | none => rwa [step_of_ended here]
  | some command =>
    rw [step_of_next here]
    exact onRing.perform loaded.input command
theorem onRing_after (onRing : s.store.OnRing size) (n : Nat) : (after loaded n s).store.OnRing size := by
  induction n with
  | zero => exact onRing
  | succ n ih =>
    rw [after_succ]
    exact onRing_step ih

end State

end TapeArena
