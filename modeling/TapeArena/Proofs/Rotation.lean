import Mathlib.Data.Nat.ModEq
import TapeArena.Proofs.Displacement
import TapeArena.Proofs.Endings

/-!
The cells are a homogeneous ring. A store whose ring is turned behaves as the store itself (`Store.Turned.perform`),
and a program behind `k` other commands behaves as the program itself, `k` positions further on
(`State.Behind.step`). Moves of the pointer before a program turn the ring and do nothing else, so they change neither
the result nor what is read and written (`Machine.call_behind_moves`).
-/
namespace TapeArena

/-! ### Turned rings -/

/-- The ring of another store is that of a store with `size` cells, turned to the right by `n` cells together with the
    pointer. -/
structure Store.Turned (size n : Nat) (store turned : Store) : Prop where
  ring : store.cells.size = size
  ringToo : turned.cells.size = size
  inside : store.pointer < size
  pointer : turned.pointer = (store.pointer + n) % size
  cell : ∀ i < size, turned.cells[(i + n) % size]? = store.cells[i]?
  reads : turned.reads = store.reads
  output : turned.output = store.output

namespace Store.Turned
variable {size n : Nat} {store turned : Store} (same : Turned size n store turned)
include same

theorem current : turned.current = store.current := by
  rw [Store.current,Store.current,Array.getD_eq_getD_getElem?,Array.getD_eq_getD_getElem?,same.pointer,
    same.cell store.pointer same.inside]

theorem insideToo : turned.pointer < size := by
  rw [same.pointer]
  exact Nat.mod_lt _ (Nat.zero_lt_of_lt same.inside)

/-- A cell is that under the pointer of the one ring if it is that under the pointer of the other. -/
theorem pointer_eq {i : Nat} (lt : i < size) : turned.pointer = (i + n) % size ↔ store.pointer = i := by
  rw [same.pointer]
  constructor
  · intro meets
    have congruent : store.pointer ≡ i [MOD size] := Nat.ModEq.add_right_cancel' n meets
    exact congruent.eq_of_lt_of_lt same.inside lt
  · rintro rfl
    rfl

theorem put (value : UInt8) : Turned size n (store.put value) (turned.put value) := by
  refine ⟨Array.size_setIfInBounds.trans same.ring,Array.size_setIfInBounds.trans same.ringToo,same.inside,
    same.pointer,?_,same.reads,same.output⟩
  intro i lt
  have inside := same.ring ▸ same.inside
  have insideToo := same.ringToo ▸ same.insideToo
  simp only [Store.put]
  by_cases here : store.pointer = i
  · rw [← (same.pointer_eq lt).mpr here,← here,Array.getElem?_setIfInBounds_self_of_lt insideToo,
      Array.getElem?_setIfInBounds_self_of_lt inside]
  · have apart := mt (same.pointer_eq lt).mp here
    rw [Array.getElem?_setIfInBounds_ne apart,Array.getElem?_setIfInBounds_ne here]
    exact same.cell i lt

/-- Moving both pointers by as many cells keeps the rings turned alike. -/
theorem move (stride : Nat) :
    Turned size n { store with pointer := (store.pointer + stride) % size }
      { turned with pointer := (turned.pointer + stride) % size } := by
  refine ⟨same.ring,same.ringToo,Nat.mod_lt _ (Nat.zero_lt_of_lt same.inside),?_,same.cell,same.reads,same.output⟩
  simp only [same.pointer,Nat.mod_add_mod,Nat.add_right_comm]

theorem write : Turned size n store.write turned.write := by
  refine ⟨same.ring,same.ringToo,same.inside,same.pointer,same.cell,same.reads,?_⟩
  simp only [Store.write,same.output,same.current]

theorem read (input : Array UInt8) : Turned size n (store.read input) (turned.read input) := by
  simp only [Store.read,same.reads]
  split
  · rename_i byte _
    have stored := same.put byte
    exact ⟨stored.ring,stored.ringToo,stored.inside,stored.pointer,stored.cell,rfl,stored.output⟩
  · exact same.put 0

/-- No command can tell a ring from the turned one. -/
theorem perform (input : Array UInt8) (command : Command) :
    Turned size n (store.perform input command) (turned.perform input command) := by
  cases command with
  | right =>
    simp only [Store.perform,Store.right,same.ring,same.ringToo]
    exact same.move 1
  | left =>
    simp only [Store.perform,Store.left,same.ring,same.ringToo]
    exact same.move (size - 1)
  | increment =>
    simp only [Store.perform,same.current]
    exact same.put _
  | decrement =>
    simp only [Store.perform,same.current]
    exact same.put _
  | output => exact same.write
  | input => exact same.read input
  | loopOpen => exact same
  | loopClose => exact same
  | comment => exact same

/-- Turning on to the place where the ring started gives the store back. -/
theorem symm {rest : Nat} (full : size ∣ n + rest) : Turned size rest turned store := by
  have around : ∀ i, (i + (n + rest)) % size = i % size := by
    intro i
    obtain ⟨times,isMultiple⟩ := full
    rw [isMultiple,Nat.add_mul_mod_self_left]
  refine ⟨same.ringToo,same.ring,same.insideToo,?_,?_,same.reads.symm,same.output.symm⟩
  · rw [same.pointer,Nat.mod_add_mod,Nat.add_assoc,around,Nat.mod_eq_of_lt same.inside]
  · intro i lt
    have cell := same.cell ((i + rest) % size) (Nat.mod_lt _ (Nat.zero_lt_of_lt lt))
    rw [Nat.mod_add_mod,Nat.add_assoc,Nat.add_comm rest n,around,Nat.mod_eq_of_lt lt] at cell
    exact cell.symm

end Store.Turned

/-! ### Programs behind other commands -/

/-- A program that is loaded behind `k` other commands. -/
structure Loaded.Behind (k : Nat) (loaded behind : Loaded) : Prop where
  code : ∀ i, behind.code[i + k]? = loaded.code[i]?
  jumps : loaded.jumps.Moved (· + k) behind.jumps
  input : behind.input = loaded.input

def Ending.delay {ε : Type} (k : Nat) : Ending ε → Ending ε
  | .stepLimit limit => .stepLimit (limit + k)
  | ending => ending

/-- What a call gives that may take `k` more steps. -/
def Halt.delay {ε : Type} (k : Nat) : Halt ε → Halt ε
  | .fault (.stepLimit limit) => .fault (.stepLimit (limit + k))
  | halt => halt

namespace State
variable {size k n : Nat} {loaded behind : Loaded} {s t : State}

/-- A state of a program behind `k` other commands that is as far as a state of the program itself, on a ring that is
    turned by `n` cells. -/
structure Behind (size k n : Nat) (s t : State) : Prop where
  store : s.store.Turned size n t.store
  position : t.position = s.position + k
  steps : t.steps = s.steps + k

theorem Behind.next (same : Behind size k n s t) (loads : loaded.Behind k behind) : t.next behind = s.next loaded := by
  rw [State.next,State.next,same.position,loads.code]

theorem Behind.landing (same : Behind size k n s t) (loads : loaded.Behind k behind) (command : Command) :
    t.landing behind command = s.landing loaded command + k :=
  landing_moved loads.jumps same.store.current same.position command

theorem Behind.step (same : Behind size k n s t) (loads : loaded.Behind k behind) :
    Behind size k n (s.step loaded) (t.step behind) := by
  have sameNext := same.next loads
  cases here : s.next loaded with
  | none =>
    rw [step_of_ended here,step_of_ended (sameNext.trans here)]
    exact same
  | some command =>
    rw [step_of_next here,step_of_next (sameNext.trans here)]
    refine ⟨?_,?_,?_⟩
    · rw [execute,execute,loads.input]
      exact same.store.perform loaded.input command
    · rw [execute,execute,same.landing loads]
      exact Nat.add_right_comm ..
    · rw [steps_execute,steps_execute,same.steps]
      exact Nat.add_right_comm ..

theorem Behind.stop? (same : Behind size k n s t) (loads : loaded.Behind k behind) (steps allowed : Nat)
    (cap : Option Nat) :
    t.stop? behind ⟨steps + k,cap⟩ allowed = (s.stop? loaded ⟨steps,cap⟩ allowed).map (Ending.delay k) := by
  have sameNext := same.next loads
  have sameWrites : t.store.writes = s.store.writes := congrArg Array.size same.store.output
  cases here : s.next loaded with
  | none =>
    rw [stop?_of_ended here,stop?_of_ended (sameNext.trans here)]
    rfl
  | some command =>
    cases allowed with
    | zero =>
      rw [stop?_zero here,stop?_zero (sameNext.trans here)]
      rfl
    | succ allowed =>
      by_cases writing : command = .output
      · subst writing
        rw [stop?_output here,stop?_output (sameNext.trans here),sameWrites,Option.map_map]
        rfl
      · rw [stop?_other here writing,stop?_other (sameNext.trans here) writing]
        rfl

theorem Behind.stopped (same : Behind size k n s t) (ending : Ending Empty) :
    Behind size k n (s.stopped ending) (t.stopped (ending.delay k)) := by
  cases ending with
  | outputLimit cap =>
    show Behind size k n s.refuse t.refuse
    refine ⟨same.store,same.position,?_⟩
    rw [refuse,refuse,same.steps]
    exact Nat.add_right_comm ..
  | _ => exact same

/-- A run behind `k` other commands ends as the run of the program itself, in a state that is as far. -/
theorem Behind.resume (loads : loaded.Behind k behind) (steps : Nat) (cap : Option Nat) (allowed : Nat)
    (same : Behind size k n s t) :
    let run := Run.resume loaded ⟨steps,cap⟩ Sink.silent allowed s ()
    let runBehind := Run.resume behind ⟨steps + k,cap⟩ Sink.silent allowed t ()
    runBehind.ending = run.ending.delay k ∧ Behind size k n run.state runBehind.state := by
  induction allowed, s using run_induction loaded ⟨steps,cap⟩ generalizing t with
  | stops allowed s ending stops =>
    have stopsToo := same.stop? loads steps allowed cap
    rw [stops,Option.map_some] at stopsToo
    rw [Run.resume_stop Sink.silent () stops,Run.resume_stop Sink.silent () stopsToo,Ending.lift_self,
      Ending.lift_self]
    exact ⟨rfl,same.stopped ending⟩
  | goes allowed s goes ih =>
    have goesToo := same.stop? loads steps (allowed + 1) cap
    rw [goes,Option.map_none] at goesToo
    rw [Run.resume_go goes,Run.resume_go goesToo]
    exact ih (same.step loads)

end State

/-! ### Programs behind moves -/

/-- A command that does nothing but move the pointer of a ring of `size` cells. -/
inductive Command.Moves (size : Nat) : Command → Nat → Prop
  | right : Moves size .right 1
  | left : Moves size .left (size - 1)

theorem Command.Moves.bare {size stride : Nat} {command : Command} (moves : command.Moves size stride) (k : Nat) :
    Jumps.Bare (List.replicate k command) := by
  intro other member
  obtain ⟨-,rfl⟩ := List.mem_replicate.mp member
  cases moves <;> exact ⟨nofun,nofun⟩

namespace State
variable {loaded : Loaded} {size k stride : Nat} {command : Command}

/-- The state after `k` moves from the start. -/
def moved (size k stride : Nat) : State :=
  ⟨{ Store.initial size with pointer := k * stride % size },k,k⟩

theorem step_moved (moves : command.Moves size stride) (here : loaded.code[k]? = some command) :
    (moved size k stride).step loaded = moved size (k + 1) stride := by
  have next : (moved size k stride).next loaded = some command := here
  have sizeIs : (Store.initial size).cells.size = size := Array.size_replicate
  rw [step_of_next next]
  cases moves <;>
    simp [execute,moved,landing,Store.perform,Store.right,Store.left,sizeIs,Nat.mod_add_mod,Nat.succ_mul]

theorem after_moved (moves : command.Moves size stride) (lead : ∀ i < k, loaded.code[i]? = some command) :
    ∀ i ≤ k, after loaded i (State.initial size) = moved size i stride := by
  intro i le
  induction i with
  | zero => simp [moved,State.initial,Store.initial]
  | succ i ih => rw [after_succ,ih (Nat.le_of_succ_le le),step_moved moves (lead i le)]

/-- Moves before a program take as many steps and are never stopped by limits that leave `steps` more. -/
theorem resume_moved (moves : command.Moves size stride) (lead : ∀ i < k, loaded.code[i]? = some command)
    (steps : Nat) (cap : Option Nat) :
    Run.resume loaded ⟨steps + k,cap⟩ Sink.silent (steps + k) (State.initial size) () =
      Run.resume loaded ⟨steps + k,cap⟩ Sink.silent steps (moved size k stride) () := by
  have goes : ∀ i < k,
      (after loaded i (State.initial size)).stop? loaded ⟨steps + k,cap⟩ (steps + k - i) = none := by
    intro i lt
    have here : (moved size i stride).next loaded = some command := lead i lt
    have some_left : steps + k - i = steps + (k - 1 - i) + 1 := by omega
    rw [after_moved moves lead i (Nat.le_of_lt lt),some_left]
    cases moves <;> exact stop?_other here nofun _
  rw [Run.resume_after goes,after_moved moves lead k (Nat.le_refl k),Nat.add_sub_cancel]

/-- Moves turn the ring of zero cells. -/
theorem behind_moved (nonempty : 1 ≤ size) (k stride : Nat) :
    Behind size k (k * stride) (State.initial size) (moved size k stride) := by
  have turned : (Store.initial size).Turned size (k * stride) (moved size k stride).store := by
    refine ⟨Array.size_replicate,Array.size_replicate,nonempty,?_,?_,rfl,rfl⟩
    · exact congrArg (· % size) (Nat.zero_add _).symm
    · intro i lt
      show (Array.replicate size 0)[_]? = (Array.replicate size 0)[i]?
      rw [Array.getElem?_replicate,Array.getElem?_replicate,if_pos (Nat.mod_lt _ nonempty),if_pos lt]
  exact ⟨turned,(Nat.zero_add k).symm,(Nat.zero_add k).symm⟩

end State

namespace Machine
variable {size k : Nat} {program : Program} {input : Bytes}

/-- A program with a jump table has one behind other commands that are no brackets. -/
theorem load_behind {lead : Program} {loaded : Loaded} (bare : Jumps.Bare lead)
    (loads : load program input = .ok loaded) :
    ∃ behind, load (lead ++ program) input = .ok behind ∧ behind.code = (lead ++ program).toArray ∧
      loaded.Behind lead.length behind := by
  obtain ⟨jumps,resolves,rfl⟩ := load_eq_ok.mp loads
  obtain ⟨moved,resolvesToo,same⟩ := Jumps.ofProgram_behind bare resolves
  refine ⟨_,load_eq_ok.mpr ⟨moved,resolvesToo,rfl⟩,rfl,?_,same,rfl⟩
  intro i
  simp [List.getElem?_append_right]

/-- What a call gives and leaves that may take `k` more steps: the same result, `k` steps and positions further on. -/
structure Delayed (k : Nat) (plain later : Except (Halt Empty) Bytes × State) : Prop where
  result : later.1 = plain.1.mapError (Halt.delay k)
  steps : later.2.steps = plain.2.steps + k
  position : later.2.position = plain.2.position + k

theorem answer_behind {run runBehind : Run Unit Empty} {size n : Nat}
    (ending : runBehind.ending = run.ending.delay k)
    (same : State.Behind size k n run.state runBehind.state) :
    answer runBehind = (answer run).mapError (Halt.delay k) := by
  rw [answer,answer,ending,same.store.output]
  cases run.ending with
  | refused reason => exact reason.elim
  | _ => rfl

/-- A program behind `k` moves gives what it gives alone, on a turned ring. -/
theorem call_behind (nonempty : 1 ≤ size) (matched : program.Matched) {command : Command} {stride : Nat}
    (moves : command.Moves size stride) (input : Bytes) (k steps : Nat) (cap : Option Nat) :
    let plain := call size ⟨steps,cap⟩ program input
    let later := call size ⟨steps + k,cap⟩ (List.replicate k command ++ program) input
    Delayed k plain later ∧ plain.2.store.Turned size (k * stride) later.2.store := by
  obtain ⟨jumps,resolves⟩ := matched
  have loads : load program input = .ok ⟨program.toArray,jumps,input.toArray⟩ := load_eq_ok.mpr ⟨jumps,resolves,rfl⟩
  obtain ⟨behind,loadsToo,codeIs,isBehind⟩ := load_behind (moves.bare k) loads
  rw [List.length_replicate] at isBehind
  have lead : ∀ i < k, behind.code[i]? = some command := by
    intro i lt
    rw [codeIs]
    simp [List.getElem?_append,lt]
  obtain ⟨ending,same⟩ := State.Behind.resume isBehind steps cap steps (State.behind_moved nonempty k stride)
  rw [← State.resume_moved moves lead] at ending same
  rw [call_of_load loads,call_of_load loadsToo]
  exact ⟨⟨answer_behind ending same,same.steps,same.position⟩,same.store⟩

/-- Moves of the pointer before a program take one step each and turn the ring: to the right by `k` cells, or to the
    left, so that the ring without the moves is that with them turned to the right. Apart from that a call gives and
    leaves the same, if it may take `k` more steps. -/
theorem call_behind_moves (nonempty : 1 ≤ size) (matched : program.Matched) (input : Bytes) (k steps : Nat)
    (cap : Option Nat) :
    let plain := call size ⟨steps,cap⟩ program input
    let right := call size ⟨steps + k,cap⟩ (List.replicate k .right ++ program) input
    let left := call size ⟨steps + k,cap⟩ (List.replicate k .left ++ program) input
    (Delayed k plain right ∧ plain.2.store.Turned size k right.2.store) ∧
      Delayed k plain left ∧ left.2.store.Turned size k plain.2.store := by
  intro plain right left
  obtain ⟨delayedRight,turnedRight⟩ := call_behind nonempty matched .right input k steps cap
  obtain ⟨delayedLeft,turnedLeft⟩ := call_behind nonempty matched .left input k steps cap
  rw [Nat.mul_one] at turnedRight
  -- to the left by one is to the right by all cells but one
  have around : k * (size - 1) + k = size * k := by
    rw [← Nat.mul_succ,Nat.succ_eq_add_one,Nat.sub_add_cancel nonempty,Nat.mul_comm]
  exact ⟨⟨delayedRight,turnedRight⟩,delayedLeft,turnedLeft.symm ⟨k,around⟩⟩

/-- Seven moves on a ring of three cells, before a program that reads and writes a byte and leaves one step unspent. -/
theorem call_behind_moves_ring :
    let program : Program := [.left,.input,.output,.right,.decrement]
    program.Matched ∧
      (call 3 ⟨6 + 7,some 1⟩ (List.replicate 7 .right ++ program) [5]).1 = .ok [5] ∧
      (call 3 ⟨6 + 7,some 1⟩ (List.replicate 7 .right ++ program) [5]).2.store.pointer = 1 ∧
      (call 3 ⟨6 + 7,some 1⟩ (List.replicate 7 .left ++ program) [5]).2.steps = 12 := by
  intro program
  have matched : program.Matched := ⟨#[none,none,none,none,none],rfl⟩
  have plain : call 3 ⟨6,some 1⟩ program [5] = (.ok [5],⟨⟨#[255,0,5],0,1,#[5]⟩,5,5⟩) := by decide
  obtain ⟨⟨right,turned⟩,left,-⟩ := call_behind_moves (by decide : 1 ≤ 3) matched [5] 7 6 (some 1)
  rw [plain] at right turned left
  exact ⟨matched,right.result,turned.pointer,left.steps⟩

end Machine

end TapeArena
