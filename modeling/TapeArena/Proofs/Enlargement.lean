import TapeArena.Proofs.Endings
import TapeArena.Proofs.Rings

/-!
Larger rings. As long as no move goes around the ring, cells behind its last one have no influence: a store with more
zero cells goes through the same states (`State.after_widen`), so a call gives the same on every larger ring and leaves
the cells of the smaller one, followed by zeros (`Machine.call_larger`).
-/
namespace TapeArena

/-- A store with more zero cells behind those of its ring. -/
def Store.widen (extra : Nat) (store : Store) : Store :=
  { store with cells := store.cells ++ Array.replicate extra 0 }
def State.widen (extra : Nat) (s : State) : State := { s with store := s.store.widen extra }

/-- A command that moves the pointer from the last of `size` cells to the first one or the other way round. -/
def Store.WrapsOn (size : Nat) (store : Store) (command : Command) : Prop :=
  command = .right ∧ store.pointer = size - 1 ∨ command = .left ∧ store.pointer = 0
/-- The next command moves the pointer from the last of `size` cells to the first one or the other way round. -/
def State.Wraps (loaded : Loaded) (size : Nat) (s : State) : Prop :=
  ∃ command ∈ s.next loaded, s.store.WrapsOn size command

instance (size : Nat) (store : Store) : DecidablePred (store.WrapsOn size) :=
  fun _ => inferInstanceAs (Decidable (_ ∨ _))
instance (loaded : Loaded) (size : Nat) (s : State) : Decidable (s.Wraps loaded size) :=
  Option.decidableExistsMem _

namespace Store
variable {size extra : Nat} {store : Store}

theorem initial_widen (size extra : Nat) : (initial size).widen extra = initial (size + extra) := by
  simp [initial,widen,Array.replicate_append_replicate]

namespace OnRing
variable (onRing : store.OnRing size)
include onRing

theorem current_widen (extra : Nat) : (store.widen extra).current = store.current := by
  have inside : store.pointer < store.cells.size := onRing.ring ▸ onRing.inside
  simp only [current,widen,Array.getD_eq_getD_getElem?,Array.getElem?_append_left inside]
theorem put_widen (extra : Nat) (value : UInt8) : (store.widen extra).put value = (store.put value).widen extra := by
  have inside : store.pointer < store.cells.size := onRing.ring ▸ onRing.inside
  simp only [Store.put,widen,Array.setIfInBounds_append,if_pos inside]
theorem read_widen (extra : Nat) (input : Array UInt8) :
    (store.widen extra).read input = (store.read input).widen extra := by
  have sameReads : (store.widen extra).reads = store.reads := rfl
  unfold Store.read
  rw [sameReads]
  split
  · rw [onRing.put_widen]
    rfl
  · exact onRing.put_widen extra 0

theorem right_widen (extra : Nat) (notLast : store.pointer ≠ size - 1) :
    (store.widen extra).right = store.right.widen extra := by
  have inside := onRing.inside
  have here : (store.pointer + 1) % size = store.pointer + 1 := Nat.mod_eq_of_lt (by omega)
  have there : (store.pointer + 1) % (size + extra) = store.pointer + 1 := Nat.mod_eq_of_lt (by omega)
  simp only [right,widen,Array.size_append,Array.size_replicate,onRing.ring,here,there]
theorem left_widen (extra : Nat) (notFirst : store.pointer ≠ 0) :
    (store.widen extra).left = store.left.widen extra := by
  have inside := onRing.inside
  -- to the left by one is around the ring and back by all cells but one
  have back (cells : Nat) (within : store.pointer < cells) :
      (store.pointer + (cells - 1)) % cells = store.pointer - 1 := by
    have around : store.pointer + (cells - 1) = store.pointer - 1 + cells := by omega
    rw [around,Nat.add_mod_right,Nat.mod_eq_of_lt (by omega)]
  simp only [left,widen,Array.size_append,Array.size_replicate,onRing.ring,back size inside,
    back (size + extra) (by omega)]

theorem perform_widen (extra : Nat) (input : Array UInt8) {command : Command} (stays : ¬ store.WrapsOn size command) :
    (store.widen extra).perform input command = (store.perform input command).widen extra := by
  cases command with
  | right => exact onRing.right_widen extra fun last => stays (.inl ⟨rfl,last⟩)
  | left => exact onRing.left_widen extra fun first => stays (.inr ⟨rfl,first⟩)
  | increment =>
    simp only [Store.perform,onRing.current_widen,onRing.put_widen]
  | decrement =>
    simp only [Store.perform,onRing.current_widen,onRing.put_widen]
  | output =>
    simp only [Store.perform,write,onRing.current_widen]
    rfl
  | input => exact onRing.read_widen extra input
  | loopOpen => rfl
  | loopClose => rfl
  | comment => rfl

end OnRing

end Store

namespace State
variable {loaded : Loaded} {limits : Limits} {size allowed n : Nat} {s : State} {ending : Ending Empty}

theorem next_widen (extra : Nat) : (s.widen extra).next loaded = s.next loaded := rfl
theorem stop?_widen (extra : Nat) : (s.widen extra).stop? loaded limits allowed = s.stop? loaded limits allowed := rfl
theorem stopped_widen (extra : Nat) : (s.widen extra).stopped ending = (s.stopped ending).widen extra := by
  cases ending <;> rfl

theorem step_widen (onRing : s.store.OnRing size) (stays : ¬ s.Wraps loaded size) (extra : Nat) :
    (s.widen extra).step loaded = (s.step loaded).widen extra := by
  cases here : s.next loaded with
  | none =>
    rw [step_of_ended here,step_of_ended ((next_widen extra).trans here)]
  | some command =>
    have staysHere : ¬ s.store.WrapsOn size command := fun wraps => stays ⟨command,here,wraps⟩
    have sameStore : (s.widen extra).store.perform loaded.input command = _ :=
      onRing.perform_widen extra loaded.input staysHere
    have sameLanding : (s.widen extra).landing loaded command = s.landing loaded command := by
      have sameCurrent : (s.widen extra).store.current = s.store.current := onRing.current_widen extra
      unfold landing
      rw [sameCurrent]
      rfl
    rw [step_of_next here,step_of_next ((next_widen extra).trans here),execute,execute,sameStore,sameLanding]
    rfl

/-- As long as no move goes around the ring, more cells make no difference. -/
theorem after_widen (onRing : s.store.OnRing size) (stays : ∀ i < n, ¬ (after loaded i s).Wraps loaded size)
    (extra : Nat) : after loaded n (s.widen extra) = (after loaded n s).widen extra := by
  induction n with
  | zero => rfl
  | succ n ih =>
    rw [after_succ,after_succ,ih fun i lt => stays i (Nat.lt_succ_of_lt lt),
      step_widen (onRing_after onRing n) (stays n (Nat.lt_succ_self n))]

theorem StopsAt.widen (stopsAt : s.StopsAt loaded limits allowed n ending) (onRing : s.store.OnRing size)
    (stays : ∀ i < n, ¬ (after loaded i s).Wraps loaded size) (extra : Nat) :
    (s.widen extra).StopsAt loaded limits allowed n ending := by
  have coupled (i : Nat) (le : i ≤ n) : after loaded i (s.widen extra) = (after loaded i s).widen extra :=
    after_widen onRing (fun j lt => stays j (Nat.lt_of_lt_of_le lt le)) extra
  constructor
  · intro i lt
    rw [coupled i (Nat.le_of_lt lt),stop?_widen]
    exact stopsAt.goes i lt
  · rw [coupled n (Nat.le_refl n),stop?_widen]
    exact stopsAt.stops

end State

namespace Machine
open State
variable {size : Nat} {program : Program} {input : Bytes} {loaded : Loaded}

/-- If no step of a call moves to the right from the last cell or to the left from the first one, the call gives the
    same on every larger ring and leaves the same state there, with zeros behind the cells of the smaller ring. -/
theorem call_larger (nonempty : 1 ≤ size) (loads : load program input = .ok loaded) (limits : Limits) {larger : Nat}
    (le : size ≤ larger) :
    let ran := call size limits program input
    (∀ i < ran.2.steps, ¬ (State.after loaded i (State.initial size)).Wraps loaded size) →
      call larger limits program input =
        (ran.1,{ ran.2 with store := { ran.2.store with
          cells := ran.2.store.cells ++ Array.replicate (larger - size) 0 } }) := by
  intro ran stays
  obtain ⟨n,ending,stopsAt⟩ := (State.initial size).exists_stopsAt loaded limits limits.steps
  have isRan : ran = (answerAt ending _,_) := call_of_stopsAt loads stopsAt
  have onRing : (State.initial size).store.OnRing size := Store.onRing_initial nonempty
  have begun : n ≤ ran.2.steps := by
    rw [isRan,steps_stopped,steps_after stopsAt.goes_of_lt]
    exact Nat.le_add_right_of_le (Nat.le_add_left n 0)
  have staysBefore : ∀ i < n, ¬ (State.after loaded i (State.initial size)).Wraps loaded size :=
    fun i lt => stays i (Nat.lt_of_lt_of_le lt begun)
  have widened : (State.initial size).widen (larger - size) = State.initial larger := by
    rw [State.widen,State.initial,Store.initial_widen,Nat.add_sub_of_le le]
    rfl
  have stopsThere := stopsAt.widen onRing staysBefore (larger - size)
  have after := after_widen onRing staysBefore (larger - size)
  rw [widened] at stopsThere after
  rw [call_of_stopsAt loads stopsThere,after,stopped_widen,isRan]
  refine Prod.ext ?_ rfl
  cases ending <;> rfl

/-- Two bytes are written and stay behind on a ring of three cells; no move goes around it. -/
theorem call_larger_echo :
    let program : Program := [.input,.loopOpen,.output,.right,.input,.loopClose,.left,.output]
    call 3 ⟨100,none⟩ program [5,6] = (.ok [5,6,6],⟨⟨#[5,6,0],1,2,#[5,6,6]⟩,8,12⟩) ∧
      call 5 ⟨100,none⟩ program [5,6] = (.ok [5,6,6],⟨⟨#[5,6,0,0,0],1,2,#[5,6,6]⟩,8,12⟩) := by
  intro program
  have loads : load program [5,6] =
      .ok ⟨program.toArray,#[none,some 5,none,none,none,some 1,none,none],#[5,6]⟩ := rfl
  have plain : call 3 ⟨100,none⟩ program [5,6] = (.ok [5,6,6],⟨⟨#[5,6,0],1,2,#[5,6,6]⟩,8,12⟩) := by decide
  have same := call_larger (by decide : 1 ≤ 3) loads ⟨100,none⟩ (by decide : 3 ≤ 5)
  rw [plain] at same
  exact ⟨plain,same (by decide)⟩

end Machine

end TapeArena
