import Mathlib.Data.Nat.Count
import TapeArena.Proofs.Rings
import TapeArena.Proofs.Rotation

/-!
Blocks of commands that take themselves back. The value of a cell comes back after 256 turns, the pointer after as many
as the ring has cells (`Wheel.turn_full`), so commands that turn one of them by full rounds leave every store as it is.
Such a block is inert wherever it stands: a run passes it whenever it comes to the place where the block was inserted,
and goes on as it does without the block (`EndsAt.insert`). So it changes nothing but the number of steps
(`Machine.ends_inserted`).
-/
namespace TapeArena

/-! ### Commands that turn a cell or the pointer -/

/-- What some commands turn around: the value of the current cell, or the pointer. -/
inductive Wheel
  | cell
  | pointer

namespace Wheel
variable {size : Nat} {store : Store}

def period (size : Nat) : Wheel → Nat
  | .cell => 256
  | .pointer => size
def turn (size : Nat) : Wheel → Nat → Store → Store
  | .cell, n, store => store.put (store.current + UInt8.ofNat n)
  | .pointer, n, store => { store with pointer := (store.pointer + n) % size }

theorem turn_add (wheel : Wheel) (onRing : store.OnRing size) (m n : Nat) :
    wheel.turn size (m + n) store = wheel.turn size n (wheel.turn size m store) := by
  cases wheel with
  | cell => simp only [turn,onRing.current_put,Store.put_put,UInt8.ofNat_add,UInt8.add_assoc]
  | pointer => simp only [turn,Nat.mod_add_mod,Nat.add_assoc]

/-- Full rounds change nothing. -/
theorem turn_full (wheel : Wheel) (onRing : store.OnRing size) {n : Nat} (full : wheel.period size ∣ n) :
    wheel.turn size n store = store := by
  obtain ⟨rounds,rfl⟩ := full
  cases wheel with
  | cell =>
    have none : UInt8.ofNat (256 * rounds) = 0 := by
      rw [UInt8.ofNat_mul]
      exact UInt8.zero_mul
    rw [turn,period,none,UInt8.add_zero,onRing.put_current]
  | pointer => rw [turn,period,Nat.add_mul_mod_self_left,Nat.mod_eq_of_lt onRing.inside]

end Wheel

/-- A command that does nothing but turn a cell or the pointer of a ring of `size` cells by a number. -/
inductive Command.Turns (size : Nat) : Wheel → Command → Nat → Prop
  | increment : Turns size .cell .increment 1
  | decrement : Turns size .cell .decrement 255
  | moves {command : Command} {stride : Nat} (moves : command.Moves size stride) : Turns size .pointer command stride

namespace Store

def performAll (input : Array UInt8) (store : Store) (block : Program) : Store := block.foldl (perform input) store

variable {size : Nat} {store : Store} {wheel : Wheel}

theorem OnRing.perform_turns (onRing : store.OnRing size) (input : Array UInt8) {command : Command} {n : Nat}
    (turns : command.Turns size wheel n) : store.perform input command = wheel.turn size n store := by
  cases turns with
  | increment => rfl
  | decrement => exact congrArg store.put (UInt8.sub_eq_add_neg _ 1)
  | moves moves =>
    cases moves with
    | right => simp only [Store.perform,right,Wheel.turn,onRing.ring]
    | left => simp only [Store.perform,left,Wheel.turn,onRing.ring]

/-- Commands that turn the same wheel turn it by the sum of their numbers. -/
theorem OnRing.performAll_turns (onRing : store.OnRing size) (input : Array UInt8) {block : Program}
    {numbers : List Nat} (turns : List.Forall₂ (Command.Turns size wheel) block numbers) :
    store.performAll input block = wheel.turn size numbers.sum store := by
  induction turns generalizing store with
  | nil => exact (wheel.turn_full onRing (Nat.dvd_zero _)).symm
  | @cons command n block numbers turns _ ih =>
    rw [List.sum_cons,wheel.turn_add onRing,← onRing.perform_turns input turns]
    exact ih (onRing.perform input command)

end Store

/-! ### Inert blocks -/

/-- A command that is no bracket and does not write. -/
def Command.Plain (command : Command) : Prop := command ≠ .loopOpen ∧ command ≠ .loopClose ∧ command ≠ .output

theorem Command.Turns.plain {size n : Nat} {wheel : Wheel} {command : Command} (turns : command.Turns size wheel n) :
    command.Plain := by
  cases turns with
  | increment => exact ⟨nofun,nofun,nofun⟩
  | decrement => exact ⟨nofun,nofun,nofun⟩
  | moves moves => cases moves <;> exact ⟨nofun,nofun,nofun⟩

namespace Program

/-- A block of plain commands that leaves every ring of `size` cells as it is. -/
structure Inert (size : Nat) (block : Program) : Prop where
  plain : ∀ command ∈ block, command.Plain
  neutral : ∀ (input : Array UInt8) (store : Store), store.OnRing size → store.performAll input block = store

/-- The blocks that take themselves back: two opposite commands, as many changes of a cell as it has values, and as many
    moves as a ring of `size` cells has cells. -/
def cancelling (size : Nat) : List Program :=
  [[.increment,.decrement],[.decrement,.increment],[.left,.right],[.right,.left],
    List.replicate 256 .increment,List.replicate 256 .decrement,List.replicate size .right,List.replicate size .left]

variable {size : Nat} {block : Program} {wheel : Wheel}

theorem Inert.bare (inert : Inert size block) : Jumps.Bare block := by
  intro command member
  obtain ⟨opens,closes,-⟩ := inert.plain command member
  exact ⟨opens,closes⟩

/-- Commands that turn a wheel by full rounds are inert. -/
theorem inert_of_turns {numbers : List Nat} (turns : List.Forall₂ (Command.Turns size wheel) block numbers)
    (full : wheel.period size ∣ numbers.sum) : Inert size block where
  plain := by
    have plain := turns.imp fun _ _ turns => And.intro turns.plain turns
    exact ((List.forall₂_and_left _ _).mp plain).1
  neutral input store onRing := by
    rw [onRing.performAll_turns input turns,wheel.turn_full onRing full]

theorem inert_pair {first second : Command} {m n : Nat} (turns : first.Turns size wheel m)
    (turnsBack : second.Turns size wheel n) (round : m + n = wheel.period size) : Inert size [first,second] :=
  inert_of_turns (.cons turns (.cons turnsBack .nil)) (by simp [round])
theorem inert_replicate {command : Command} {n : Nat} (turns : command.Turns size wheel n) :
    Inert size (List.replicate (wheel.period size) command) := by
  have all (k : Nat) :
      List.Forall₂ (Command.Turns size wheel) (List.replicate k command) (List.replicate k n) := by
    induction k with
    | zero => exact .nil
    | succ k ih => exact .cons turns ih
  exact inert_of_turns (all _) (by simp)

theorem inert_of_cancelling (nonempty : 1 ≤ size) (cancels : block ∈ cancelling size) : Inert size block := by
  have left : 1 + (size - 1) = size := Nat.add_sub_of_le nonempty
  have right : size - 1 + 1 = size := Nat.sub_add_cancel nonempty
  simp only [cancelling,List.mem_cons,List.not_mem_nil,or_false] at cancels
  rcases cancels with rfl | rfl | rfl | rfl | rfl | rfl | rfl | rfl
  · exact inert_pair .increment .decrement rfl
  · exact inert_pair .decrement .increment rfl
  · exact inert_pair (.moves .left) (.moves .right) right
  · exact inert_pair (.moves .right) (.moves .left) left
  · exact inert_replicate .increment
  · exact inert_replicate .decrement
  · exact inert_replicate (.moves .right)
  · exact inert_replicate (.moves .left)

end Program

/-! ### Programs with a block inserted -/

/-- A program as it is loaded, and the program with a block inserted at a site as it is loaded with the same input. -/
structure Loaded.Inserts (site : Nat) (block : Program) (loaded padded : Loaded) : Prop where
  code : ∀ i, padded.code[Jumps.shifted site block.length i]? = loaded.code[i]?
  inside : ∀ d < block.length, padded.code[site + d]? = block[d]?
  jumps : loaded.jumps.Moved (Jumps.shifted site block.length) padded.jumps
  input : padded.input = loaded.input

namespace State
open Program Jumps
variable {loaded padded : Loaded} {cap : Option Nat} {size site : Nat} {block : Program} {s t : State}

/-- The first `k` steps from a state are taken. -/
def Passes (loaded : Loaded) (cap : Option Nat) (k : Nat) (s : State) : Prop :=
  ∀ i < k, (after loaded i s).end? loaded cap = none

theorem Passes.succ {k : Nat} (goes : s.end? loaded cap = none) (passes : Passes loaded cap k (s.step loaded)) :
    Passes loaded cap (k + 1) s := by
  intro i lt
  cases i with
  | zero => exact goes
  | succ i => exact passes i (Nat.lt_of_succ_lt_succ lt)

/-- A run that ends after its first `k` steps ends. -/
theorem EndsAt.before {k n : Nat} {ending : Ending Empty} (passes : Passes loaded cap k s)
    (ends : EndsAt loaded cap (after loaded k s) n ending) : EndsAt loaded cap s (k + n) ending := by
  induction k generalizing s with
  | zero => rwa [Nat.zero_add]
  | succ k ih =>
    rw [Nat.add_right_comm]
    exact .later (passes 0 (Nat.succ_pos k)) (ih (fun i lt => passes (i + 1) (Nat.succ_lt_succ lt)) ends)
/-- A run ends after the first `k` steps that it takes. -/
theorem EndsAt.behind {k m : Nat} {ending : Ending Empty} (passes : Passes loaded cap k s)
    (ends : EndsAt loaded cap s m ending) : ∃ n, m = k + n ∧ EndsAt loaded cap (after loaded k s) n ending := by
  induction k generalizing s m with
  | zero => exact ⟨m,(Nat.zero_add m).symm,ends⟩
  | succ k ih =>
    have goes : s.end? loaded cap = none := passes 0 (Nat.succ_pos k)
    cases ends with
    | here ends => cases goes.symm.trans ends
    | later _ later =>
      obtain ⟨n,rfl,laterToo⟩ := ih (fun i lt => passes (i + 1) (Nat.succ_lt_succ lt)) later
      exact ⟨n,Nat.add_right_comm k n 1,laterToo⟩

theorem step_plain {command : Command} (plain : command.Plain) (here : s.next loaded = some command) :
    s.step loaded = ⟨s.store.perform loaded.input command,s.position + 1,s.steps + 1⟩ := by
  rw [step_of_next here]
  cases command with
  | loopOpen => exact absurd rfl plain.1
  | loopClose => exact absurd rfl plain.2.1
  | _ => rfl

/-- Plain commands are performed one after another. -/
theorem passes_plain (plain : ∀ command ∈ block, command.Plain)
    (stands : ∀ d < block.length, loaded.code[s.position + d]? = block[d]?) (cap : Option Nat) :
    let last := after loaded block.length s
    Passes loaded cap block.length s ∧ last.store = s.store.performAll loaded.input block ∧
      last.position = s.position + block.length := by
  induction block generalizing s with
  | nil => exact ⟨nofun,rfl,rfl⟩
  | cons command block ih =>
    obtain ⟨plainHere,plainLater⟩ := List.forall_mem_cons.mp plain
    have here : s.next loaded = some command := stands 0 (Nat.succ_pos _)
    have step := step_plain plainHere here
    have store : (s.step loaded).store = s.store.perform loaded.input command := congrArg State.store step
    have position : (s.step loaded).position = s.position + 1 := congrArg State.position step
    have standsLater : ∀ d < block.length, loaded.code[(s.step loaded).position + d]? = block[d]? := by
      intro d lt
      rw [position,Nat.add_assoc,Nat.add_comm 1 d]
      exact stands (d + 1) (Nat.succ_lt_succ lt)
    obtain ⟨passes,storeLater,positionLater⟩ := ih plainLater standsLater
    rw [store] at storeLater
    rw [position] at positionLater
    refine ⟨passes.succ (end?_other here plainHere.2.2),storeLater,positionLater.trans ?_⟩
    exact Nat.add_right_comm s.position 1 block.length

/-- A state with the store of another one, at the place of its position. With a block inserted at a site, that place is
    `shifted (site + 1)` for a state in front of the block and `shifted site` for a state behind it. -/
structure Placed (place : Nat → Nat) (s t : State) : Prop where
  store : t.store = s.store
  position : t.position = place s.position

section
variable (inserts : loaded.Inserts site block padded)
include inserts

/-- What stands in front of the place of the block stands behind the block once that was passed. -/
theorem Placed.pass (same : Placed (shifted (site + 1) block.length) s t) (inert : Inert size block)
    (onRing : s.store.OnRing size) (cap : Option Nat) :
    let k := if s.position = site then block.length else 0
    Passes padded cap k t ∧ Placed (shifted site block.length) s (after padded k t) := by
  by_cases here : s.position = site
  · have position : t.position = site := by
      rw [same.position,shifted_of_lt (by omega),here]
    have stands : ∀ d < block.length, padded.code[t.position + d]? = block[d]? := by
      rw [position]
      exact inserts.inside
    obtain ⟨passes,store,behind⟩ := passes_plain inert.plain stands cap
    rw [if_pos here]
    refine ⟨passes,?_,?_⟩
    · rw [store,same.store,inert.neutral _ _ onRing]
    · rw [behind,position,here,shifted_of_le (Nat.le_refl site)]
  · rw [if_neg here]
    refine ⟨nofun,same.store,?_⟩
    rw [after_zero,same.position,shifted,shifted]
    exact if_congr (by omega) rfl rfl

variable (same : Placed (shifted site block.length) s t)
include same

theorem Placed.next : t.next padded = s.next loaded := by
  rw [State.next,State.next,same.position,inserts.code]
theorem Placed.end?_eq (cap : Option Nat) : t.end? padded cap = s.end? loaded cap := by
  apply end?_congr
  · exact same.next inserts
  · exact congrArg Store.writes same.store

/-- The next command is performed by both, and leads in front of the block if it leads there without the block. -/
theorem Placed.step {command : Command} (here : s.next loaded = some command) :
    Placed (shifted (site + 1) block.length) (s.step loaded) (t.step padded) := by
  have lands := landing_moved inserts.jumps (congrArg Store.current same.store) same.position command
  rw [step_of_next here,step_of_next ((same.next inserts).trans here)]
  constructor
  · simp only [execute,same.store,inserts.input]
  · simp only [execute,lands,shifted_succ]

end

/-- How many of the first `n` states are at a position. -/
def visits (loaded : Loaded) (position n : Nat) (s : State) : Nat :=
  Nat.count (fun i => (after loaded i s).position = position) n

theorem visits_succ (loaded : Loaded) (position n : Nat) (s : State) :
    visits loaded position (n + 1) s = visits loaded position n (s.step loaded) +
      if s.position = position then 1 else 0 :=
  Nat.count_succ' ..

/-- A run beside which the program with an inert block runs: that one ends in the same way, and passes the block
    whenever the run is at its place. -/
theorem EndsAt.insert (inserts : loaded.Inserts site block padded) (inert : Inert size block) {n : Nat}
    {ending : Ending Empty} (ends : EndsAt loaded cap s n ending) (onRing : s.store.OnRing size)
    (same : Placed (shifted (site + 1) block.length) s t) :
    ∃ m, EndsAt padded cap t m ending ∧ m = n + block.length * visits loaded site (n + 1) s ∧
      Placed (shifted site block.length) (after loaded n s) (after padded m t) := by
  induction ends generalizing t with
  | @here s ending ends =>
    obtain ⟨passes,passed⟩ := same.pass inserts inert onRing cap
    refine ⟨_,EndsAt.before passes (.here ((passed.end?_eq inserts cap).trans ends)),?_,passed⟩
    rw [visits_succ]
    split <;> simp [visits]
  | @later s n ending goes later ih =>
    obtain ⟨passes,passed⟩ := same.pass inserts inert onRing cap
    obtain ⟨command,here⟩ := next_of_end?_none goes
    -- a step from behind the block leads in front of it, if it leads there at all
    obtain ⟨m,endsLater,counted,placed⟩ := ih (onRing_step onRing) (passed.step inserts here)
    refine ⟨_,EndsAt.before passes (.later ((passed.end?_eq inserts cap).trans goes) endsLater),?_,?_⟩
    · rw [visits_succ,counted,Nat.mul_add]
      split <;> omega
    · rw [after_add padded]
      exact placed

/-- If the program with an inert block comes to an end, so does the program itself. -/
theorem EndsAt.of_insert (inserts : loaded.Inserts site block padded) (inert : Inert size block) {m : Nat}
    {ending : Ending Empty} (ends : EndsAt padded cap t m ending) (onRing : s.store.OnRing size)
    (same : Placed (shifted (site + 1) block.length) s t) : ∃ n, EndsAt loaded cap s n ending := by
  induction m using Nat.strongRecOn generalizing s t with
  | ind m ih =>
    obtain ⟨passes,passed⟩ := same.pass inserts inert onRing cap
    -- the steps inside the block are followed by those that both programs take
    obtain ⟨n,rfl,endsBehind⟩ := ends.behind passes
    cases endsBehind with
    | here ends => exact ⟨0,.here ((passed.end?_eq inserts cap).symm.trans ends)⟩
    | @later _ n _ goes later =>
      have goesToo : s.end? loaded cap = none := (passed.end?_eq inserts cap).symm.trans goes
      obtain ⟨command,here⟩ := next_of_end?_none goesToo
      obtain ⟨steps,ends⟩ := ih n (by omega) later (onRing_step onRing) (passed.step inserts here)
      exact ⟨steps + 1,.later goesToo ends⟩

end State

namespace Machine
open Program State
variable {size : Nat} {cap : Option Nat} {before block behind : Program} {input : Bytes} {loaded : Loaded}

theorem load_insert (bare : Jumps.Bare block) (loads : load (before ++ behind) input = .ok loaded) :
    ∃ padded, load (before ++ (block ++ behind)) input = .ok padded ∧ loaded.Inserts before.length block padded := by
  obtain ⟨jumps,resolves,rfl⟩ := load_eq_ok.mp loads
  obtain ⟨moved,resolvesToo,same⟩ := Jumps.ofProgram_insert bare resolves
  refine ⟨_,load_eq_ok.mpr ⟨moved,resolvesToo,rfl⟩,?_,?_,same,rfl⟩
  · intro i
    by_cases lt : i < before.length
    · rw [Jumps.shifted_of_lt lt]
      simp [List.getElem?_append_left lt]
    · have le := Nat.le_of_not_lt lt
      obtain ⟨n,rfl⟩ := Nat.exists_eq_add_of_le le
      rw [Jumps.shifted_of_le le]
      simp [List.getElem?_append_right,Nat.add_assoc]
  · intro d lt
    simp [List.getElem?_append_right,List.getElem?_append_left lt]

theorem placed_initial (size site k : Nat) :
    Placed (Jumps.shifted (site + 1) k) (State.initial size) (State.initial size) :=
  ⟨rfl,(Jumps.shifted_of_lt (Nat.succ_pos site) k).symm⟩

/-- How many states a run came to that was not stopped by a limit on its steps: one before every step that it began, and
    the last one if it finished. -/
def passed (result : Except (Halt Empty) Bytes) (last : State) : Nat :=
  match result with
  | .ok _ => last.steps + 1
  | .error _ => last.steps

theorem passed_of_endsAt {n : Nat} {ending : Ending Empty} (ends : EndsAt loaded cap (State.initial size) n ending) :
    let last := (after loaded n (State.initial size)).stopped ending
    passed (answerAt ending last) last = n + 1 := by
  have steps := steps_of_endsAt ends
  cases verdict_of ends.end_after with
  | ended _ => exact congrArg Nat.succ steps
  | exceeds _ _ => exact steps

/-- What a program comes to without a limit on its steps, it comes to with an inert block inserted, in as many more
    steps as the block has commands whenever the program comes to its place. -/
theorem Ends.insert (nonempty : 1 ≤ size) (inert : Inert size block)
    (loads : load (before ++ behind) input = .ok loaded) {result : Except (Halt Empty) Bytes} {last : State}
    (ends : Ends size cap (before ++ behind) input result last) :
    ∃ padded, Ends size cap (before ++ (block ++ behind)) input result padded ∧ padded.store = last.store ∧
      padded.steps = last.steps +
        block.length * visits loaded before.length (passed result last) (State.initial size) := by
  obtain ⟨n,ending,endsAt,rfl,rfl⟩ := ends.exists_endsAt loads
  obtain ⟨padded,loadsToo,inserts⟩ := load_insert inert.bare loads
  obtain ⟨m,endsToo,counted,placed⟩ :=
    endsAt.insert inserts inert (Store.onRing_initial nonempty) (placed_initial size before.length block.length)
  obtain ⟨endsPadded,sameStore⟩ := ends_of_store loadsToo endsToo placed.store
  refine ⟨_,endsPadded,sameStore,?_⟩
  rw [passed_of_endsAt endsAt,steps_of_endsAt endsAt,steps_of_endsAt endsToo,counted,Nat.add_right_comm]

/-- What a program comes to with an inert block inserted, it comes to. -/
theorem Ends.of_insert (nonempty : 1 ≤ size) (inert : Inert size block)
    (loads : load (before ++ behind) input = .ok loaded) {result : Except (Halt Empty) Bytes} {padded : State}
    (ends : Ends size cap (before ++ (block ++ behind)) input result padded) :
    ∃ last, Ends size cap (before ++ behind) input result last := by
  obtain ⟨other,loadsToo,inserts⟩ := load_insert inert.bare loads
  obtain ⟨m,ending,endsToo,rfl,rfl⟩ := ends.exists_endsAt loadsToo
  obtain ⟨n,endsAt⟩ :=
    endsToo.of_insert inserts inert (Store.onRing_initial nonempty) (placed_initial size before.length block.length)
  have endsHere := ends_of_endsAt loads endsAt
  obtain ⟨another,endsThere,-⟩ := endsHere.insert nonempty inert loads
  obtain ⟨same,-⟩ := endsThere.unique ends
  rw [← same]
  exact ⟨_,endsHere⟩

/-- A block that takes itself back can be inserted anywhere in a program. Without a limit on its steps, the program with
    the block comes to an end if and only if the program itself does: with the same result and the same store, in as
    many more steps as the block has commands whenever the program comes to the place of the block. -/
theorem ends_inserted (nonempty : 1 ≤ size) (cancels : block ∈ cancelling size)
    (loads : load (before ++ behind) input = .ok loaded) (cap : Option Nat) :
    let plain := before ++ behind
    let padded := before ++ block ++ behind
    (∀ result last, Ends size cap plain input result last →
      ∃ lastPadded, Ends size cap padded input result lastPadded ∧ lastPadded.store = last.store ∧
        lastPadded.steps = last.steps +
          block.length * visits loaded before.length (passed result last) (State.initial size)) ∧
    ∀ result lastPadded, Ends size cap padded input result lastPadded →
      ∃ last, Ends size cap plain input result last := by
  intro plain padded
  have inert := inert_of_cancelling nonempty cancels
  have parts : padded = before ++ (block ++ behind) := List.append_assoc ..
  rw [parts]
  exact ⟨fun _ _ ends => ends.insert nonempty inert loads,fun _ _ ends => ends.of_insert nonempty inert loads⟩

/-- Moves around a ring of three cells at the beginning of a loop, which comes there once from before the loop and once
    from its end. -/
theorem ends_inserted_loop :
    let before : Program := [.increment,.increment,.loopOpen]
    let behind : Program := [.decrement,.loopClose,.output]
    let padded := before ++ List.replicate 3 .right ++ behind
    call 3 ⟨8,none⟩ (before ++ behind) [] = (.ok [0],⟨⟨#[0,0,0],0,0,#[0]⟩,6,8⟩) ∧
      (call 3 ⟨14,none⟩ padded []).1 = .ok [0] ∧ (call 3 ⟨14,none⟩ padded []).2.steps = 14 := by
  intro before behind padded
  have loads : load (before ++ behind) [] =
      .ok ⟨(before ++ behind).toArray,#[none,none,some 4,none,some 2,none],#[]⟩ := rfl
  have plain : call 3 ⟨8,none⟩ (before ++ behind) [] = (.ok [0],⟨⟨#[0,0,0],0,0,#[0]⟩,6,8⟩) := by decide
  have cancels : List.replicate 3 .right ∈ cancelling 3 := by decide
  obtain ⟨ends,-⟩ := ends_of_call loads (by decide : (call 3 ⟨8,none⟩ (before ++ behind) []).1 ≠ _)
  rw [plain] at ends
  obtain ⟨inserted,-⟩ := ends_inserted (by decide : 1 ≤ 3) cancels loads none
  obtain ⟨last,endsPadded,-,steps⟩ := inserted _ _ ends
  have counted : last.steps = 14 := steps.trans (by decide)
  have given : call 3 ⟨14,none⟩ padded [] = (.ok [0],last) := endsPadded 14 (Nat.le_of_eq counted)
  rw [given]
  exact ⟨plain,rfl,counted⟩

end Machine

end TapeArena
