import Mathlib.Logic.Function.Basic
import TapeArena.Machine.State
import TapeArena.Proofs.Omission

/-!
Programs whose commands stand at other places. Brackets that move find the partners that moved along: where commands
are read in the same order from other places on, the scan rejects the bracket at its new place or fills a table with
the same partners at their new places (`Jumps.scan_moved`). So a program in which commands are inserted that are no
brackets has the same table, what is behind them further back (`Jumps.ofProgram_insert`), and jumps lead to the places
of where they led (`State.landing_moved`).
-/
namespace TapeArena.Jumps
variable {place : Nat → Nat} {jumps moved : Jumps}

/-- A table with its slots at other places, each with the place of its partner. -/
def Moved (place : Nat → Nat) (jumps moved : Jumps) : Prop :=
  ∀ i, moved[place i]? = jumps[i]?.map (Option.map place)

/-- A jump leads to the place of where it led. -/
theorem Moved.target (same : Moved place jumps moved) (i : Nat) :
    moved.target (place i) = place (jumps.target i) := by
  simp only [Jumps.target,Array.getD_eq_getD_getElem?,same i]
  rcases jumps[i]? with _ | _ | partner <;> rfl

/-- Tables stay the same up to places when a slot gets a partner. -/
theorem Moved.set (same : Moved place jumps moved) (apart : Function.Injective place) (i partner : Nat) :
    Moved place (jumps.setIfInBounds i (some partner)) (moved.setIfInBounds (place i) (some (place partner))) := by
  intro j
  by_cases here : i = j
  · subst here
    have bounds : moved.size ≤ place i ↔ jumps.size ≤ i := by
      rw [← Array.getElem?_eq_none_iff,← Array.getElem?_eq_none_iff,same i,Option.map_eq_none_iff]
    rw [Array.getElem?_setIfInBounds_self,Array.getElem?_setIfInBounds_self]
    by_cases inside : i < jumps.size
    · rw [if_pos inside,if_pos (by omega)]
      rfl
    · rw [if_neg inside,if_neg (by omega)]
      rfl
  · rw [Array.getElem?_setIfInBounds_ne here,Array.getElem?_setIfInBounds_ne (apart.ne here)]
    exact same j

theorem moved_empty {length lengthMoved : Nat} (inside : ∀ i, place i < lengthMoved ↔ i < length) :
    Moved place (Array.replicate length none) (Array.replicate lengthMoved none) := by
  intro i
  rw [Array.getElem?_replicate,Array.getElem?_replicate,if_congr (inside i) rfl rfl]
  split <;> rfl

/-- What comes of the scan of a program and of the scan from other places on: both reject the same bracket, or both
    are done, with tables that are the same up to places. -/
inductive ScansAlike (place : Nat → Nat) : Except BracketFault Jumps → Except BracketFault Jumps → Prop
  | rejected (fault : BracketFault) : ScansAlike place (.error fault) (.error (fault.move place))
  | accepted {jumps moved : Jumps} (same : Moved place jumps moved) : ScansAlike place (.ok jumps) (.ok moved)

theorem ScansAlike.of_ok {other : Except BracketFault Jumps} (alike : ScansAlike place (.ok jumps) other) :
    ∃ moved, other = .ok moved ∧ Moved place jumps moved := by
  cases alike with
  | @accepted _ moved same => exact ⟨moved,rfl,same⟩

/-- Commands that are read in the same order from other places on leave the same loops open and the same table up to
    places, so nothing but what follows them can make a difference. -/
theorem scan_moved (apart : Function.Injective place) {commands : Program} {i start : Nat}
    (places : ∀ d < commands.length, place (i + d) = start + d) {rest restMoved : Program}
    (later : ∀ (pending : List Nat) (jumps moved : Jumps), Moved place jumps moved →
      ScansAlike place (scan rest (i + commands.length) pending jumps)
        (scan restMoved (start + commands.length) (pending.map place) moved))
    (pending : List Nat) (same : Moved place jumps moved) :
    ScansAlike place (scan (commands ++ rest) i pending jumps)
      (scan (commands ++ restMoved) start (pending.map place) moved) := by
  induction commands generalizing i start pending jumps moved with
  | nil => exact later pending jumps moved same
  | cons command commands ih =>
    have here : place i = start := places 0 (Nat.succ_pos _)
    have placesLater : ∀ d < commands.length, place (i + 1 + d) = start + 1 + d := by
      intro d lt
      rw [Nat.add_assoc,Nat.add_comm 1 d,places (d + 1) (Nat.succ_lt_succ lt)]
      omega
    rw [List.length_cons,Nat.add_comm commands.length 1,← Nat.add_assoc,← Nat.add_assoc] at later
    have go := fun (pending : List Nat) {jumps moved : Jumps} (same : Moved place jumps moved) =>
      ih placesLater later pending same
    rw [List.cons_append,List.cons_append]
    by_cases opens : command = .loopOpen
    · subst opens
      subst here
      exact go (i :: pending) same
    by_cases closes : command = .loopClose
    · subst closes
      subst here
      cases pending with
      | nil => exact .rejected (.unmatchedClose i)
      -- the loop opened last gets its partner, then the bracket that closes it
      | cons opening pending => exact go pending ((same.set apart opening i).set apart i opening)
    · rw [scan_leaf opens closes,scan_leaf opens closes]
      exact go pending same

/-- Where a program ends, the scan rejects the loop that was opened last, if any. -/
theorem scan_end (i start : Nat) (pending : List Nat) (same : Moved place jumps moved) :
    ScansAlike place (scan [] i pending jumps) (scan [] start (pending.map place) moved) := by
  cases pending with
  | nil => exact .accepted same
  | cons opening pending => exact .rejected (.unmatchedOpen opening)

/-! ### Commands inside a program -/

/-- No command is a bracket. -/
def Bare (commands : Program) : Prop := ∀ command ∈ commands, command ≠ .loopOpen ∧ command ≠ .loopClose

theorem scan_bare {commands : Program} (bare : Bare commands) (rest : Program) (i : Nat) (pending : List Nat)
    (jumps : Jumps) : scan (commands ++ rest) i pending jumps = scan rest (i + commands.length) pending jumps := by
  induction commands generalizing i with
  | nil => rfl
  | cons command commands ih =>
    obtain ⟨⟨opens,closes⟩,bareLater⟩ := List.forall_mem_cons.mp bare
    rw [List.cons_append,scan_leaf opens closes,ih bareLater,List.length_cons]
    exact congrArg (scan rest · pending jumps) (by omega)

/-- Where a command stands once `k` others are inserted at a site. -/
def shifted (site k i : Nat) : Nat := if i < site then i else i + k

theorem shifted_of_lt {site i : Nat} (lt : i < site) (k : Nat) : shifted site k i = i := if_pos lt
theorem shifted_of_le {site i : Nat} (le : site ≤ i) (k : Nat) : shifted site k i = i + k := if_neg (Nat.not_lt.mpr le)
theorem shifted_succ (site k i : Nat) : shifted (site + 1) k (i + 1) = shifted site k i + 1 := by
  simp only [shifted,Nat.add_lt_add_iff_right]
  split
  · rfl
  · exact Nat.add_right_comm i 1 k
theorem shifted_injective (site k : Nat) : Function.Injective (shifted site k) := by
  intro i j same
  simp only [shifted] at same
  split at same <;> split at same <;> omega

/-- A program in which commands are inserted that are no brackets has its table, with what is behind them that many
    places further back. -/
theorem ofProgram_insert {before block behind : Program} (bare : Bare block)
    (resolves : ofProgram (before ++ behind) = .ok jumps) :
    ∃ moved, ofProgram (before ++ (block ++ behind)) = .ok moved ∧
      Moved (shifted before.length block.length) jumps moved := by
  have apart := shifted_injective before.length block.length
  have inside (i : Nat) : shifted before.length block.length i < (before ++ (block ++ behind)).length ↔
      i < (before ++ behind).length := by
    simp only [shifted,List.length_append]
    split <;> omega
  have placesBefore : ∀ d < before.length, shifted before.length block.length (0 + d) = 0 + d :=
    fun d lt => shifted_of_lt (by omega) _
  have placesBehind : ∀ d < behind.length,
      shifted before.length block.length (0 + before.length + d) = 0 + before.length + block.length + d := by
    intro d _
    rw [shifted_of_le (by omega),Nat.add_right_comm]
  have later : ∀ (pending : List Nat) (jumps moved : Jumps), Moved (shifted before.length block.length) jumps moved →
      ScansAlike (shifted before.length block.length) (scan behind (0 + before.length) pending jumps)
        (scan (block ++ behind) (0 + before.length) (pending.map (shifted before.length block.length)) moved) := by
    intro pending jumps moved same
    have alike := scan_moved apart placesBehind (fun pending _ _ same => scan_end _ _ pending same) pending same
    rw [List.append_nil] at alike
    rw [scan_bare bare]
    exact alike
  have alike := scan_moved apart placesBefore later [] (moved_empty inside)
  rw [← ofProgram,resolves] at alike
  exact alike.of_ok

/-- A program behind commands that are no brackets has its table that many places further back. -/
theorem ofProgram_behind {lead program : Program} (bare : Bare lead) (resolves : ofProgram program = .ok jumps) :
    ∃ moved, ofProgram (lead ++ program) = .ok moved ∧ Moved (· + lead.length) jumps moved := by
  have shift : shifted 0 lead.length = (· + lead.length) := funext fun i => shifted_of_le (Nat.zero_le i) _
  have resolvesBehind : ofProgram ([] ++ program) = .ok jumps := resolves
  rw [← shift]
  exact ofProgram_insert bare resolvesBehind

end TapeArena.Jumps

namespace TapeArena.State

/-- On the same cell, a command moves on from the place of where it moved on from. -/
theorem landing_moved {place : Nat → Nat} {loaded moved : Loaded} {s t : State}
    (jumps : loaded.jumps.Moved place moved.jumps) (current : t.store.current = s.store.current)
    (position : t.position = place s.position) (command : Command) :
    t.landing moved command = place (s.landing loaded command) := by
  have target : moved.jumps.target (place s.position) = place (loaded.jumps.target s.position) :=
    jumps.target s.position
  cases command with
  | loopOpen =>
    simp only [landing,current,position,target]
    split <;> rfl
  | loopClose =>
    simp only [landing,current,position,target]
    split <;> rfl
  | _ => exact position

end TapeArena.State
