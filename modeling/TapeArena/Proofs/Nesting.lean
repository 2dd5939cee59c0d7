import TapeArena.Tree

/-!
Programs and nested commands. A program that has a jump table reads as nested commands, which written out
give the program again (`exists_trees`). Its table is the one that joins the brackets of every loop at the
positions where the loop stands (`ofProgram_toPrograms`, `joined_marked`).
-/
namespace TapeArena

namespace Tree

/-- Induction over nested commands, one tree after another: the first one is a command or a loop. -/
theorem induction_trees {motive : List Tree → Prop} (nil : motive [])
    (leaf : ∀ command rest, motive rest → motive (.leaf command :: rest))
    (loop : ∀ body rest, motive body → motive rest → motive (.loop body :: rest)) :
    ∀ trees, motive trees
  | [] => nil
  | .leaf command :: rest => leaf command rest (induction_trees nil leaf loop rest)
  | .loop body :: rest =>
    loop body rest (induction_trees nil leaf loop body) (induction_trees nil leaf loop rest)

/-- No single command of a tree is a bracket. -/
inductive Proper : Tree → Prop
  | leaf {command : Command} (notOpen : command ≠ .loopOpen) (notClose : command ≠ .loopClose) :
    Proper (.leaf command)
  | loop {body : List Tree} (inside : ∀ tree ∈ body, Proper tree) : Proper (.loop body)

@[simp] theorem toPrograms_nil : toPrograms [] = [] := by
  rw [toPrograms]
@[simp] theorem toPrograms_leaf (command : Command) (rest : List Tree) :
    toPrograms (.leaf command :: rest) = command :: toPrograms rest := by
  rw [toPrograms,toProgram,List.singleton_append]
@[simp] theorem toPrograms_loop (body rest : List Tree) :
    toPrograms (.loop body :: rest) = .loopOpen :: (toPrograms body ++ .loopClose :: toPrograms rest) := by
  rw [toPrograms,toProgram]
  simp
theorem toPrograms_append (first second : List Tree) :
    toPrograms (first ++ second) = toPrograms first ++ toPrograms second := by
  induction first with
  | nil => simp
  | cons tree rest ih =>
    rw [List.cons_append,toPrograms,toPrograms,ih,List.append_assoc]

/-! ### Reading -/

/-- What was read before the loop that is open, with the brackets of the loops that are open. -/
def before : List (List Tree) → Program
  | [] => []
  | outer :: around => before around ++ toPrograms outer.reverse ++ [.loopOpen]

/-- A single command is read into the loop that is open. -/
theorem scan_leaf {command : Command} (notOpen : command ≠ .loopOpen) (notClose : command ≠ .loopClose)
    (rest : Program) (here : List Tree) (around : List (List Tree)) :
    scan (command :: rest) here around = scan rest (.leaf command :: here) around := by
  cases command with
  | loopOpen => exact absurd rfl notOpen
  | loopClose => exact absurd rfl notClose
  | _ => rfl

/-- The nested commands that were read give the program again when they are written out, and their leaves are
    single commands. -/
theorem scan_sound {program : Program} {here : List Tree} {around : List (List Tree)} {trees : List Tree}
    (read : scan program here around = some trees) (proper : ∀ tree ∈ here, tree.Proper)
    (properAround : ∀ outer ∈ around, ∀ tree ∈ outer, tree.Proper) :
    toPrograms trees = before around ++ toPrograms here.reverse ++ program ∧
      ∀ tree ∈ trees, tree.Proper := by
  induction program generalizing here around with
  | nil =>
    cases around with
    | nil =>
      cases read
      exact ⟨by simp [before],fun tree member => proper tree (List.mem_reverse.mp member)⟩
    | cons outer around => cases read
  | cons command rest ih =>
    by_cases opens : command = .loopOpen
    · subst opens
      obtain ⟨written,allProper⟩ := ih read (by simp) (by simpa using ⟨proper,properAround⟩)
      exact ⟨by simpa [before] using written,allProper⟩
    by_cases closes : command = .loopClose
    · subst closes
      cases around with
      | nil => cases read
      | cons outer around =>
        obtain ⟨properOuter,properAround⟩ := List.forall_mem_cons.mp properAround
        have properLoop : (Tree.loop here.reverse).Proper :=
          .loop fun tree member => proper tree (List.mem_reverse.mp member)
        obtain ⟨written,allProper⟩ := ih read (List.forall_mem_cons.mpr ⟨properLoop,properOuter⟩) properAround
        exact ⟨by simpa [before,toPrograms_append] using written,allProper⟩
    · rw [scan_leaf opens closes] at read
      obtain ⟨written,allProper⟩ :=
        ih read (List.forall_mem_cons.mpr ⟨.leaf opens closes,proper⟩) properAround
      exact ⟨by simpa [toPrograms_append] using written,allProper⟩

end Tree

/-- A program whose brackets can be joined can be read. -/
theorem Tree.scan_complete {program : Program} {i : Nat} {pending : List Nat} {jumps table : Jumps}
    (resolves : Jumps.scan program i pending jumps = .ok table) (here : List Tree)
    (around : List (List Tree)) (sameDepth : around.length = pending.length) :
    ∃ trees, scan program here around = some trees := by
  induction program generalizing i pending jumps here around with
  | nil =>
    cases pending with
    | nil =>
      obtain rfl := List.length_eq_zero_iff.mp sameDepth
      exact ⟨here.reverse,rfl⟩
    | cons last pending => cases resolves
  | cons command rest ih =>
    by_cases opens : command = .loopOpen
    · subst opens
      exact ih resolves [] (here :: around) (congrArg (· + 1) sameDepth)
    by_cases closes : command = .loopClose
    · subst closes
      cases pending with
      | nil => cases resolves
      | cons start pending =>
        cases around with
        | nil => cases sameDepth
        | cons outer around => exact ih resolves (.loop here.reverse :: outer) around (Nat.succ.inj sameDepth)
    · rw [Jumps.scan_leaf opens closes] at resolves
      rw [Tree.scan_leaf opens closes]
      exact ih resolves (.leaf command :: here) around sameDepth

/-- A program whose brackets match is the writing of the nested commands that it reads as. -/
theorem Program.Matched.exists_trees {program : Program} (matched : program.Matched) :
    ∃ trees, Tree.ofProgram? program = some trees ∧ Tree.toPrograms trees = program ∧
      ∀ tree ∈ trees, tree.Proper := by
  obtain ⟨table,resolves⟩ := matched
  obtain ⟨trees,read⟩ := Tree.scan_complete resolves [] [] rfl
  obtain ⟨written,proper⟩ := Tree.scan_sound read (by simp) (by simp)
  exact ⟨trees,read,by simpa [Tree.before] using written,proper⟩

/-! ### Joining the brackets -/

namespace Tree

/-- A table in which the brackets of every loop are joined, for nested commands that start at a position. -/
def mark : Nat → List Tree → Jumps → Jumps
  | _, [], jumps => jumps
  | i, .leaf _ :: rest, jumps => mark (i + 1) rest jumps
  | i, .loop body :: rest, jumps =>
    let close := i + 1 + (toPrograms body).length
    mark (close + 1) rest
      (((mark (i + 1) body jumps).setIfInBounds i (some close)).setIfInBounds close (some i))

/-- The brackets of every loop are joined in a table, for nested commands that start at a position. -/
def Joined (jumps : Jumps) : Nat → List Tree → Prop
  | _, [] => True
  | i, .leaf _ :: rest => Joined jumps (i + 1) rest
  | i, .loop body :: rest =>
    let close := i + 1 + (toPrograms body).length
    jumps[i]? = some (some close) ∧ jumps[close]? = some (some i) ∧ Joined jumps (i + 1) body ∧
      Joined jumps (close + 1) rest

/-- Resolving nested commands joins the brackets of their loops and goes on behind them. -/
theorem scan_toPrograms {trees : List Tree} (proper : ∀ tree ∈ trees, tree.Proper) (rest : Program)
    (i : Nat) (pending : List Nat) (jumps : Jumps) :
    Jumps.scan (toPrograms trees ++ rest) i pending jumps =
      Jumps.scan rest (i + (toPrograms trees).length) pending (mark i trees jumps) := by
  induction trees using induction_trees generalizing rest i pending jumps with
  | nil => simp [mark]
  | leaf command behind ih =>
    obtain ⟨properHere,properBehind⟩ := List.forall_mem_cons.mp proper
    cases properHere with
    | leaf notOpen notClose =>
      rw [toPrograms_leaf,List.cons_append,Jumps.scan_leaf notOpen notClose,ih properBehind,mark,
        List.length_cons]
      congr 1
      omega
  | loop body behind ihBody ihBehind =>
    obtain ⟨properHere,properBehind⟩ := List.forall_mem_cons.mp proper
    cases properHere with
    | loop inside =>
      rw [toPrograms_loop,List.cons_append,List.append_assoc,List.cons_append,Jumps.scan,ihBody inside,
        Jumps.scan,ihBehind properBehind,mark]
      congr 1
      simp only [List.length_cons,List.length_append]
      omega

theorem size_mark (i : Nat) (trees : List Tree) (jumps : Jumps) : (mark i trees jumps).size = jumps.size := by
  induction trees using induction_trees generalizing i jumps with
  | nil => rw [mark]
  | leaf command behind ih => rw [mark,ih]
  | loop body behind ihBody ihBehind => simp only [mark,ihBehind,Array.size_setIfInBounds,ihBody]

/-- Slots outside the nested commands are left alone. -/
theorem mark_outside {i k : Nat} {trees : List Tree} (outside : k < i ∨ i + (toPrograms trees).length ≤ k)
    (jumps : Jumps) : (mark i trees jumps)[k]? = jumps[k]? := by
  induction trees using induction_trees generalizing i jumps with
  | nil => rw [mark]
  | leaf command behind ih =>
    simp only [toPrograms_leaf,List.length_cons] at outside
    rw [mark,ih (by omega)]
  | loop body behind ihBody ihBehind =>
    simp only [toPrograms_loop,List.length_cons,List.length_append] at outside
    simp only [mark]
    rw [ihBehind (by omega),Array.getElem?_setIfInBounds_ne (by omega),
      Array.getElem?_setIfInBounds_ne (by omega),ihBody (by omega)]

/-- Whether brackets are joined is told by the slots of the nested commands. -/
theorem Joined.congr {jumps other : Jumps} {i : Nat} {trees : List Tree} (joined : Joined jumps i trees)
    (same : ∀ k, i ≤ k → k < i + (toPrograms trees).length → other[k]? = jumps[k]?) :
    Joined other i trees := by
  induction trees using induction_trees generalizing i with
  | nil => rw [Joined]; trivial
  | leaf command behind ih =>
    simp only [toPrograms_leaf,List.length_cons] at same
    rw [Joined] at joined ⊢
    exact ih joined fun k low high => same k (by omega) (by omega)
  | loop body behind ihBody ihBehind =>
    simp only [toPrograms_loop,List.length_cons,List.length_append] at same
    rw [Joined] at joined ⊢
    obtain ⟨opening,closing,inside,rest⟩ := joined
    refine ⟨?_,?_,ihBody inside ?_,ihBehind rest ?_⟩
    · rw [same i (by omega) (by omega)]
      exact opening
    · rw [same _ (by omega) (by omega)]
      exact closing
    · exact fun k low high => same k (by omega) (by omega)
    · exact fun k low high => same k (by omega) (by omega)

theorem joined_mark {i : Nat} {trees : List Tree} {jumps : Jumps}
    (fits : i + (toPrograms trees).length ≤ jumps.size) : Joined (mark i trees jumps) i trees := by
  induction trees using induction_trees generalizing i jumps with
  | nil => rw [Joined]; trivial
  | leaf command behind ih =>
    simp only [toPrograms_leaf,List.length_cons] at fits
    rw [Joined,mark]
    exact ih (by omega)
  | loop body behind ihBody ihBehind =>
    simp only [toPrograms_loop,List.length_cons,List.length_append] at fits
    have inside : Joined (mark (i + 1) body jumps) (i + 1) body := ihBody (by omega)
    rw [Joined,mark]
    refine ⟨?_,?_,inside.congr ?_,ihBehind ?_⟩
    · rw [mark_outside (by omega),Array.getElem?_setIfInBounds_ne (by omega),
        Array.getElem?_setIfInBounds_self_of_lt (by rw [size_mark]; omega)]
    · rw [mark_outside (by omega),
        Array.getElem?_setIfInBounds_self_of_lt (by rw [Array.size_setIfInBounds,size_mark]; omega)]
    · intro k low high
      rw [mark_outside (by omega),Array.getElem?_setIfInBounds_ne (by omega),
        Array.getElem?_setIfInBounds_ne (by omega)]
    · simp only [Array.size_setIfInBounds,size_mark]
      omega

end Tree

/-- The jump table of a program written from nested commands joins the brackets of their loops. -/
theorem Jumps.ofProgram_toPrograms {trees : List Tree} (proper : ∀ tree ∈ trees, tree.Proper) :
    ∃ jumps, ofProgram (Tree.toPrograms trees) = .ok jumps ∧ Tree.Joined jumps 0 trees := by
  have resolved := Tree.scan_toPrograms proper [] 0 [] (Array.replicate (Tree.toPrograms trees).length none)
  rw [List.append_nil] at resolved
  exact ⟨_,resolved,Tree.joined_mark (by simp)⟩

end TapeArena
