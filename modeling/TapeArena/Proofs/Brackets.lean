import TapeArena.Jumps

/-!
What a scan for brackets has found so far. The commands that were read are balanced but for the loops that are still
open (`LeavesOpen`), and the table joins the brackets of exactly those loops that were closed (`Scanned`). Each command
keeps this, so it tells what comes of a whole scan (`Jumps.outcome_ofProgram`).
-/
namespace TapeArena

namespace Program

/-! ### Balanced commands -/

def opened (commands : Program) : Nat := commands.count .loopOpen
def closed (commands : Program) : Nat := commands.count .loopClose

/-- Some commands close the loops that they open and no others. -/
structure Balanced (commands : Program) : Prop where
  even : closed commands = opened commands
  covered : ∀ n, closed (commands.take n) ≤ opened (commands.take n)

@[simp] theorem opened_nil : opened [] = 0 := rfl
@[simp] theorem closed_nil : closed [] = 0 := rfl
@[simp] theorem opened_append (first second : Program) : opened (first ++ second) = opened first + opened second :=
  List.count_append
@[simp] theorem closed_append (first second : Program) : closed (first ++ second) = closed first + closed second :=
  List.count_append
@[simp] theorem opened_cons (command : Command) (rest : Program) :
    opened (command :: rest) = opened rest + if command = .loopOpen then 1 else 0 := by
  simp [opened,List.count_cons]
@[simp] theorem closed_cons (command : Command) (rest : Program) :
    closed (command :: rest) = closed rest + if command = .loopClose then 1 else 0 := by
  simp [closed,List.count_cons]

namespace Balanced
variable {body more : Program}

theorem nil : Balanced [] := ⟨rfl,by simp⟩
theorem leaf {command : Command} (notOpen : command ≠ .loopOpen) (notClose : command ≠ .loopClose) :
    Balanced [command] := by
  refine ⟨by simp [notOpen,notClose],fun n => ?_⟩
  cases n with
  | zero => simp
  | succ n => simp [notOpen,notClose]
theorem append (first : Balanced body) (second : Balanced more) : Balanced (body ++ more) := by
  refine ⟨by simp [first.even,second.even],fun n => ?_⟩
  have begun := first.covered n
  have added := second.covered (n - body.length)
  rw [List.take_append,opened_append,closed_append]
  omega
/-- Brackets around balanced commands are balanced. -/
theorem enclose (balanced : Balanced body) : Balanced (.loopOpen :: (body ++ [.loopClose])) := by
  refine ⟨by simp [balanced.even],fun n => ?_⟩
  cases n with
  | zero => simp
  | succ n =>
    have inside := balanced.covered n
    have last : closed ([Command.loopClose].take (n - body.length)) ≤ 1 := (List.take_sublist _ _).count_le _
    simp only [List.take_succ_cons,List.take_append,opened_cons,closed_cons,opened_append,closed_append,reduceCtorEq,
      if_true,if_false]
    omega

end Balanced

/-- A position holds a bracket. -/
def HasBracket (program : Program) (i : Nat) : Prop := program[i]? = some .loopOpen ∨ program[i]? = some .loopClose

/-! ### Loops that are still open -/

/-- Some commands are balanced but for the loops that they leave open, the last opened one first: in front of and behind
    the bracket of each of them stand balanced commands. -/
inductive LeavesOpen : Program → List Nat → Prop
  | none {commands : Program} (balanced : Balanced commands) : LeavesOpen commands []
  | loop {before body : Program} {pending : List Nat} (leaves : LeavesOpen before pending) (balanced : Balanced body) :
    LeavesOpen (before ++ .loopOpen :: body) (before.length :: pending)

namespace LeavesOpen
variable {commands more : Program} {pending : List Nat} {start : Nat}

theorem append (leaves : LeavesOpen commands pending) (balanced : Balanced more) :
    LeavesOpen (commands ++ more) pending := by
  cases leaves with
  | none begun => exact .none (begun.append balanced)
  | loop leaves begun =>
    rw [List.append_assoc,List.cons_append]
    exact .loop leaves (begun.append balanced)
theorem opens (leaves : LeavesOpen commands pending) :
    LeavesOpen (commands ++ [.loopOpen]) (commands.length :: pending) := .loop leaves .nil
/-- The loop that was opened last can be closed. -/
theorem closes (leaves : LeavesOpen commands (start :: pending)) :
    LeavesOpen (commands ++ [.loopClose]) pending := by
  cases leaves with
  | loop leaves balanced =>
    rw [List.append_assoc,List.cons_append]
    exact leaves.append balanced.enclose

theorem opened_eq (leaves : LeavesOpen commands pending) : opened commands = closed commands + pending.length := by
  induction leaves with
  | none balanced => exact balanced.even.symm
  | loop _ balanced ih =>
    simp [ih,balanced.even]
    omega
/-- No loop is closed that was not opened before. -/
theorem covered (leaves : LeavesOpen commands pending) (n : Nat) :
    closed (commands.take n) ≤ opened (commands.take n) := by
  induction leaves generalizing n with
  | none balanced => exact balanced.covered n
  | @loop before body _ _ balanced ih =>
    have begun := ih n
    rw [List.take_append,opened_append,closed_append]
    cases n - before.length with
    | zero => simpa using begun
    | succ rest =>
      have added := balanced.covered rest
      simp
      omega
theorem lt_length (leaves : LeavesOpen commands pending) {p : Nat} (member : p ∈ pending) : p < commands.length := by
  induction leaves with
  | none => cases member
  | loop _ _ ih =>
    rw [List.length_append,List.length_cons]
    rcases List.mem_cons.mp member with rfl | later
    · omega
    · have before := ih later
      omega
/-- The loop that was opened last lies inside all the others. -/
theorem lt_start (leaves : LeavesOpen commands (start :: pending)) {p : Nat} (member : p ∈ pending) : p < start := by
  cases leaves with
  | loop leaves _ => exact leaves.lt_length member

end LeavesOpen

/-- Two positions hold the brackets of one loop: what stands between them is balanced. -/
def Loop (program : Program) (i j : Nat) : Prop :=
  ∃ before body after, program = before ++ .loopOpen :: (body ++ .loopClose :: after) ∧ before.length = i ∧
    i + 1 + body.length = j ∧ Balanced body

namespace Loop
variable {program : Program} {i j : Nat}

theorem lt (loop : Loop program i j) : i < j := by
  obtain ⟨before,body,after,-,-,rfl,-⟩ := loop
  omega
theorem opening (loop : Loop program i j) : program[i]? = some .loopOpen := by
  obtain ⟨before,body,after,rfl,rfl,-,-⟩ := loop
  simp
theorem closing (loop : Loop program i j) : program[j]? = some .loopClose := by
  obtain ⟨before,body,after,rfl,rfl,rfl,-⟩ := loop
  rw [List.getElem?_append_right (by omega)]
  have offset : before.length + 1 + body.length - before.length = body.length + 1 := by omega
  simp [offset]
theorem lt_length (loop : Loop program i j) : j < program.length :=
  (List.getElem?_eq_some_iff.mp loop.closing).1

end Loop

/-- A closing bracket and the loop that was opened last belong together. -/
theorem LeavesOpen.loop_of_close {program : Program} {i start : Nat} {pending : List Nat}
    (leaves : LeavesOpen (program.take i) (start :: pending)) (here : program[i]? = some .loopClose) :
    Loop program start i := by
  have inside : i < program.length := (List.getElem?_eq_some_iff.mp here).1
  have rest : program.drop i = .loopClose :: program.drop (i + 1) := by
    rw [List.drop_eq_getElem?_toList_append,here]
    rfl
  have parts : program = program.take i ++ .loopClose :: program.drop (i + 1) := by
    rw [← rest,List.take_append_drop]
  have isLength : (program.take i).length = i := List.length_take_of_le (Nat.le_of_lt inside)
  generalize program.take i = commands,program.drop (i + 1) = after at leaves parts isLength
  cases leaves with
  | @loop before body _ _ balanced =>
    refine ⟨before,body,after,?_,rfl,?_,balanced⟩
    · rw [parts,List.append_assoc,List.cons_append]
    · rw [← isLength,List.length_append,List.length_cons]
      omega

end Program

namespace Jumps
open Program
variable {program : Program} {i start : Nat} {pending : List Nat} {jumps : Jumps}

/-! ### One command after the other -/

/-- How far a scan has come at a position: the loops that are still open have empty slots, and the brackets of all
    others are joined. -/
structure Scanned (program : Program) (i : Nat) (pending : List Nat) (jumps : Jumps) : Prop where
  leaves : LeavesOpen (program.take i) pending
  size : jumps.size = program.length
  joined : ∀ k p : Nat, jumps[k]? = some (some p) →
    k < i ∧ jumps[p]? = some (some k) ∧ (Loop program k p ∨ Loop program p k)
  waiting : ∀ p ∈ pending, jumps[p]? = some none
  found : ∀ k < i, program.HasBracket k → k ∈ pending ∨ ∃ p, jumps[k]? = some (some p)

namespace Scanned

theorem initial (program : Program) : Scanned program 0 [] (Array.replicate program.length none) where
  leaves := .none .nil
  size := Array.size_replicate
  joined := by simp [Array.getElem?_replicate]
  waiting := nofun
  found := nofun

variable (scanned : Scanned program i pending jumps)
include scanned

theorem exists_slot {k : Nat} (inside : k < program.length) : ∃ slot, jumps[k]? = some slot :=
  ⟨_,Array.getElem?_eq_getElem (scanned.size ▸ inside)⟩
/-- The slot of a position that was not read yet is empty. -/
theorem getElem?_here (inside : i < program.length) : jumps[i]? = some none := by
  obtain ⟨_ | p,slot⟩ := scanned.exists_slot inside
  · exact slot
  · exact absurd (scanned.joined i p slot).1 (Nat.lt_irrefl i)

theorem leaf {command : Command} (here : program[i]? = some command) (notOpen : command ≠ .loopOpen)
    (notClose : command ≠ .loopClose) : Scanned program (i + 1) pending jumps where
  leaves := by
    rw [List.take_add_one,here]
    exact scanned.leaves.append (.leaf notOpen notClose)
  size := scanned.size
  joined k p found := by
    obtain ⟨before,partner⟩ := scanned.joined k p found
    exact ⟨Nat.lt_succ_of_lt before,partner⟩
  waiting := scanned.waiting
  found k le bracket := by
    rcases Nat.lt_succ_iff_lt_or_eq.mp le with before | rfl
    · exact scanned.found k before bracket
    · rw [Program.HasBracket,here,Option.some.injEq,Option.some.injEq] at bracket
      exact absurd bracket (not_or.mpr ⟨notOpen,notClose⟩)

theorem opens (here : program[i]? = some .loopOpen) : Scanned program (i + 1) (i :: pending) jumps where
  leaves := by
    have inside : i < program.length := (List.getElem?_eq_some_iff.mp here).1
    have opens := scanned.leaves.opens
    rw [List.length_take_of_le (Nat.le_of_lt inside)] at opens
    rw [List.take_add_one,here]
    exact opens
  size := scanned.size
  joined k p found := by
    obtain ⟨before,partner⟩ := scanned.joined k p found
    exact ⟨Nat.lt_succ_of_lt before,partner⟩
  waiting := by
    have inside : i < program.length := (List.getElem?_eq_some_iff.mp here).1
    exact List.forall_mem_cons.mpr ⟨scanned.getElem?_here inside,scanned.waiting⟩
  found k le bracket := by
    rcases Nat.lt_succ_iff_lt_or_eq.mp le with before | rfl
    · rcases scanned.found k before bracket with waits | joined
      · exact .inl (List.mem_cons_of_mem _ waits)
      · exact .inr joined
    · exact .inl List.mem_cons_self

end Scanned

/-- The slots of a table in which two brackets were joined. -/
theorem getElem?_join {jumps : Jumps} {close : Nat} (insideStart : start < jumps.size) (inside : close < jumps.size)
    (k : Nat) :
    ((jumps.setIfInBounds start (some close)).setIfInBounds close (some start))[k]? =
      if k = close then some (some start) else if k = start then some (some close) else jumps[k]? := by
  by_cases isClose : k = close
  · subst isClose
    rw [if_pos rfl,Array.getElem?_setIfInBounds_self_of_lt (by simpa using inside)]
  · rw [if_neg isClose,Array.getElem?_setIfInBounds_ne (Ne.symm isClose)]
    by_cases isStart : k = start
    · subst isStart
      rw [if_pos rfl,Array.getElem?_setIfInBounds_self_of_lt insideStart]
    · rw [if_neg isStart,Array.getElem?_setIfInBounds_ne (Ne.symm isStart)]

theorem Scanned.closes (scanned : Scanned program i (start :: pending) jumps)
    (here : program[i]? = some .loopClose) :
    Scanned program (i + 1) pending ((jumps.setIfInBounds start (some i)).setIfInBounds i (some start)) := by
  have loop : Loop program start i := scanned.leaves.loop_of_close here
  have insideHere : i < jumps.size := scanned.size ▸ loop.lt_length
  have slot := getElem?_join (Nat.lt_trans loop.lt insideHere) insideHere
  have emptyHere : jumps[i]? = some none := scanned.getElem?_here loop.lt_length
  have emptyStart : jumps[start]? = some none := scanned.waiting start List.mem_cons_self
  refine ⟨?_,?_,?_,?_,?_⟩
  · rw [List.take_add_one,here]
    exact scanned.leaves.closes
  · rw [Array.size_setIfInBounds,Array.size_setIfInBounds,scanned.size]
  · intro k p found
    rw [slot] at found
    rw [slot]
    split at found
    · rename_i isHere
      cases found
      subst isHere
      exact ⟨Nat.lt_succ_self k,by simp [Nat.ne_of_lt loop.lt],.inr loop⟩
    · split at found
      · rename_i isStart
        cases found
        subst isStart
        exact ⟨Nat.lt_succ_of_lt loop.lt,by simp,.inl loop⟩
      -- a slot that was filled before has a partner that was, so neither of the two is one of the new ones
      · obtain ⟨before,back,joined⟩ := scanned.joined k p found
        have notHere : p ≠ i := by
          rintro rfl
          cases emptyHere.symm.trans back
        have notStart : p ≠ start := by
          rintro rfl
          cases emptyStart.symm.trans back
        rw [if_neg notHere,if_neg notStart]
        exact ⟨Nat.lt_succ_of_lt before,back,joined⟩
  · intro p member
    have before : p < start := scanned.leaves.lt_start member
    have beforeHere : p < i := Nat.lt_trans before loop.lt
    rw [slot,if_neg (Nat.ne_of_lt beforeHere),if_neg (Nat.ne_of_lt before)]
    exact scanned.waiting p (List.mem_cons_of_mem _ member)
  · intro k le bracket
    rw [slot]
    rcases Nat.lt_succ_iff_lt_or_eq.mp le with before | rfl
    · by_cases isStart : k = start
      · subst isStart
        exact .inr ⟨i,by simp [Nat.ne_of_lt before]⟩
      · rw [if_neg (Nat.ne_of_lt before),if_neg isStart]
        rcases scanned.found k before bracket with waits | joined
        · exact .inl ((List.mem_cons.mp waits).resolve_left isStart)
        · exact .inr joined
    · exact .inr ⟨start,if_pos rfl⟩

/-! ### A whole scan -/

/-- What comes of a scan of a program: all loops are closed and joined, or a bracket closes a loop that was never
    opened, or loops are left open. -/
inductive Outcome (program : Program) : Except BracketFault Jumps → Prop
  | resolved {jumps : Jumps} (scanned : Scanned program program.length [] jumps) : Outcome program (.ok jumps)
  | surplus {i : Nat} (leaves : LeavesOpen (program.take i) []) (here : program[i]? = some .loopClose) :
    Outcome program (.error (.unmatchedClose i))
  | unfinished {last : Nat} {pending : List Nat} (leaves : LeavesOpen program (last :: pending)) :
    Outcome program (.error (.unmatchedOpen last))

theorem Scanned.outcome {rest : Program} (scanned : Scanned program i pending jumps)
    (stands : program.drop i = rest) : Outcome program (scan rest i pending jumps) := by
  induction rest generalizing i pending jumps with
  | nil =>
    have whole : program.take i = program := List.take_of_length_le (List.drop_eq_nil_iff.mp stands)
    cases pending with
    | nil =>
      refine .resolved ⟨?_,scanned.size,?_,nofun,?_⟩
      · rw [List.take_length]
        exact whole ▸ scanned.leaves
      · intro k p found
        obtain ⟨-,back,joined⟩ := scanned.joined k p found
        refine ⟨?_,back,joined⟩
        rw [← scanned.size]
        exact (Array.getElem?_eq_some_iff.mp found).1
      · intro k lt bracket
        exact scanned.found k (Nat.lt_of_lt_of_le lt (List.drop_eq_nil_iff.mp stands)) bracket
    | cons last pending => exact .unfinished (whole ▸ scanned.leaves)
  | cons command rest ih =>
    have here : program[i]? = some command := by rw [← List.head?_drop,stands]; rfl
    have behind : program.drop (i + 1) = rest := by rw [← List.tail_drop,stands]; rfl
    by_cases opens : command = .loopOpen
    · subst opens
      exact ih (scanned.opens here) behind
    by_cases closes : command = .loopClose
    · subst closes
      cases pending with
      | nil => exact .surplus scanned.leaves here
      | cons start pending => exact ih (scanned.closes here) behind
    · rw [scan_leaf opens closes]
      exact ih (scanned.leaf here opens closes) behind

/-- What comes of the scan of a whole program. -/
theorem outcome_ofProgram (program : Program) : Outcome program (ofProgram program) :=
  (Scanned.initial program).outcome List.drop_zero

end Jumps

end TapeArena
