import TapeArena.Jumps

/-!
Programs with some commands left out. A command that is kept moves to the place that counts the kept commands
before it (`place`). Where all brackets are kept they find the same partners: the two programs are rejected
for the same bracket, or they are accepted with tables that agree at the places (`ofProgram_filter`).
-/
namespace TapeArena

namespace BracketFault

def position : BracketFault → Nat
  | .unmatchedOpen position | .unmatchedClose position => position
def bracket : BracketFault → Command
  | .unmatchedOpen _ => .loopOpen
  | .unmatchedClose _ => .loopClose
/-- The fault of the same kind of bracket at another position. -/
def move (place : Nat → Nat) : BracketFault → BracketFault
  | .unmatchedOpen position => .unmatchedOpen (place position)
  | .unmatchedClose position => .unmatchedClose (place position)

end BracketFault

namespace Program
variable {keep : Command → Bool} {program : Program} {i j : Nat} {command : Command}

/-- The number of kept commands before a position: where the command there stands once the others are left
    out. -/
def place (keep : Command → Bool) (program : Program) (i : Nat) : Nat := (program.take i).countP keep

theorem place_zero (keep : Command → Bool) (program : Program) : program.place keep 0 = 0 := by
  simp [place]
theorem place_succ (here : program[i]? = some command) :
    program.place keep (i + 1) = program.place keep i + if keep command then 1 else 0 := by
  rw [place,List.take_add_one,here,List.countP_append,Option.toList_some,List.countP_singleton]
  rfl
theorem place_succ_kept (here : program[i]? = some command) (kept : keep command) :
    program.place keep (i + 1) = program.place keep i + 1 := by
  rw [place_succ here,if_pos kept]
theorem place_succ_other (here : program[i]? = some command) (other : keep command = false) :
    program.place keep (i + 1) = program.place keep i := by
  rw [place_succ here,other]
  rfl

theorem place_le (le : i ≤ j) : program.place keep i ≤ program.place keep j := by
  have part : program.take i = (program.take j).take i := by rw [List.take_take,Nat.min_eq_left le]
  rw [place,part]
  exact (List.take_sublist i _).countP_le
/-- Commands that are kept do not meet. -/
theorem place_ne (here : program[i]? = some command) (kept : keep command) {another : Command}
    (there : program[j]? = some another) (keptToo : keep another) (differ : i ≠ j) :
    program.place keep i ≠ program.place keep j := by
  rcases Nat.lt_or_gt_of_ne differ with before | behind
  · have step := place_succ_kept here kept
    have later : program.place keep (i + 1) ≤ program.place keep j := place_le before
    omega
  · have step := place_succ_kept there keptToo
    have later : program.place keep (j + 1) ≤ program.place keep i := place_le behind
    omega

/-- A kept command stands at its place. -/
theorem getElem?_place (here : program[i]? = some command) (kept : keep command) :
    (program.filter keep)[program.place keep i]? = some command := by
  have rest : program.drop i = command :: program.drop (i + 1) := by
    rw [List.drop_eq_getElem?_toList_append,here]
    rfl
  have placed : program.place keep i = ((program.take i).filter keep).length := List.countP_eq_length_filter
  have parts : program.filter keep =
      (program.take i).filter keep ++ command :: (program.drop (i + 1)).filter keep := by
    rw [← List.filter_cons_of_pos kept,← rest,← List.filter_append,List.take_append_drop]
  rw [placed,parts,List.getElem?_append_right (Nat.le_refl _),Nat.sub_self,List.getElem?_cons_zero]
/-- The end of the program is at the end of what is kept. -/
theorem getElem?_place_end (ended : program[i]? = none) :
    (program.filter keep)[program.place keep i]? = none := by
  have all : program.take i = program := List.take_of_length_le (List.getElem?_eq_none_iff.mp ended)
  have placed : program.place keep i = (program.filter keep).length := by
    rw [place,all,List.countP_eq_length_filter]
  exact List.getElem?_eq_none (Nat.le_of_eq placed.symm)

end Program

namespace Jumps
open Program
variable {keep : Command → Bool} {program : Program} {jumps bare : Jumps} {i k : Nat} {command : Command}

/-- The tables of a program and of what is kept of it agree: slots of kept commands hold the same partner, and
    partners are kept. -/
structure Agrees (keep : Command → Bool) (program : Program) (jumps bare : Jumps) : Prop where
  slot : ∀ (k : Nat) (command : Command), program[k]? = some command → keep command →
    bare[program.place keep k]? = jumps[k]?.map (Option.map (program.place keep))
  partner : ∀ k partner : Nat, jumps[k]? = some (some partner) →
    ∃ command, program[partner]? = some command ∧ keep command

/-- A jump from a kept command leads to the same command, and so behind it. -/
theorem Agrees.target (agrees : Agrees keep program jumps bare) (here : program[k]? = some command)
    (kept : keep command) :
    bare.target (program.place keep k) + 1 = program.place keep (jumps.target k + 1) := by
  have slot := agrees.slot k command here kept
  have behind := place_succ_kept here kept
  simp only [Jumps.target,Array.getD_eq_getD_getElem?,slot]
  cases found : jumps[k]? with
  | none => simp [behind]
  | some slotHere =>
    cases slotHere with
    | none => simp [behind]
    | some partner =>
      obtain ⟨another,there,keptToo⟩ := agrees.partner k partner found
      simp [place_succ_kept there keptToo]

/-- Agreement is kept when a kept command gets a kept partner. -/
theorem Agrees.set (agrees : Agrees keep program jumps bare) (here : program[i]? = some command)
    (kept : keep command) {partner : Nat} {another : Command} (there : program[partner]? = some another)
    (keptThere : keep another) :
    Agrees keep program (jumps.setIfInBounds i (some partner))
      (bare.setIfInBounds (program.place keep i) (some (program.place keep partner))) := by
  constructor
  · intro k other found keptOther
    by_cases same : i = k
    · subst same
      have slot := agrees.slot i command here kept
      have bounds : bare.size ≤ program.place keep i ↔ jumps.size ≤ i := by
        rw [← Array.getElem?_eq_none_iff,← Array.getElem?_eq_none_iff,slot,Option.map_eq_none_iff]
      rw [Array.getElem?_setIfInBounds_self,Array.getElem?_setIfInBounds_self]
      by_cases inside : i < jumps.size
      · rw [if_pos inside,if_pos (by omega)]
        rfl
      · rw [if_neg inside,if_neg (by omega)]
        rfl
    · rw [Array.getElem?_setIfInBounds_ne same,Array.getElem?_setIfInBounds_ne (place_ne here kept found keptOther same)]
      exact agrees.slot k other found keptOther
  · intro k other found
    by_cases same : i = k
    · subst same
      rw [Array.getElem?_setIfInBounds_self] at found
      split at found
      · cases found
        exact ⟨another,there,keptThere⟩
      · cases found
    · rw [Array.getElem?_setIfInBounds_ne same] at found
      exact agrees.partner k other found

/-- What comes of resolving a program and of resolving what is kept of it: both are rejected for the same
    bracket, or both are accepted with tables that agree. -/
inductive Alike (keep : Command → Bool) (program : Program) :
    Except BracketFault Jumps → Except BracketFault Jumps → Prop
  | rejected (fault : BracketFault) (there : program[fault.position]? = some fault.bracket) :
    Alike keep program (.error fault) (.error (fault.move (program.place keep)))
  | accepted {jumps bare : Jumps} (agrees : Agrees keep program jumps bare) :
    Alike keep program (.ok jumps) (.ok bare)

theorem Alike.of_error {fault : BracketFault} {other : Except BracketFault Jumps}
    (alike : Alike keep program (.error fault) other) :
    program[fault.position]? = some fault.bracket ∧ other = .error (fault.move (program.place keep)) := by
  cases alike with
  | rejected _ there => exact ⟨there,rfl⟩
theorem Alike.of_ok {other : Except BracketFault Jumps} (alike : Alike keep program (.ok jumps) other) :
    ∃ bare, other = .ok bare ∧ Agrees keep program jumps bare := by
  cases alike with
  | @accepted _ bare agrees => exact ⟨bare,rfl,agrees⟩

/-- From any position on, resolving a program and what is kept of it comes to the same. -/
theorem scan_filter (keepsOpen : keep .loopOpen) (keepsClose : keep .loopClose) {rest : Program}
    (stands : program.drop i = rest) {pending : List Nat}
    (opened : ∀ start ∈ pending, program[start]? = some .loopOpen) (agrees : Agrees keep program jumps bare) :
    Alike keep program (scan rest i pending jumps)
      (scan (rest.filter keep) (program.place keep i) (pending.map (program.place keep)) bare) := by
  induction rest generalizing i pending jumps bare with
  | nil =>
    cases pending with
    | nil => exact .accepted agrees
    | cons last pending => exact .rejected (.unmatchedOpen last) (opened last List.mem_cons_self)
  | cons command rest ih =>
    have here : program[i]? = some command := by rw [← List.head?_drop,stands]; rfl
    have behind : program.drop (i + 1) = rest := by rw [← List.tail_drop,stands]; rfl
    by_cases opens : command = .loopOpen
    · subst opens
      have openedToo : ∀ start ∈ i :: pending, program[start]? = some .loopOpen :=
        List.forall_mem_cons.mpr ⟨here,opened⟩
      have resolved := ih behind openedToo agrees
      rw [place_succ_kept here keepsOpen] at resolved
      rw [List.filter_cons_of_pos keepsOpen]
      exact resolved
    by_cases closes : command = .loopClose
    · subst closes
      rw [List.filter_cons_of_pos keepsClose]
      cases pending with
      | nil => exact .rejected (.unmatchedClose i) here
      | cons start pending =>
        obtain ⟨there,openedRest⟩ := List.forall_mem_cons.mp opened
        have joined := (agrees.set there keepsOpen here keepsClose).set here keepsClose there keepsOpen
        have resolved := ih behind openedRest joined
        rw [place_succ_kept here keepsClose] at resolved
        exact resolved
    · have resolved := ih behind opened agrees
      rw [scan_leaf opens closes]
      by_cases kept : keep command
      · rw [List.filter_cons_of_pos kept,scan_leaf opens closes,← place_succ_kept here kept]
        exact resolved
      · rw [List.filter_cons_of_neg kept,← place_succ_other here (eq_false_of_ne_true kept)]
        exact resolved

/-- A program is rejected for a bracket if what is kept of it is rejected for that bracket at its place;
    otherwise their tables agree. -/
theorem ofProgram_filter (keepsOpen : keep .loopOpen) (keepsClose : keep .loopClose) (program : Program) :
    Alike keep program (ofProgram program) (ofProgram (program.filter keep)) := by
  have empty : Agrees keep program (Array.replicate program.length none)
      (Array.replicate (program.filter keep).length none) := by
    constructor
    · intro k command here kept
      have inside : k < program.length := (List.getElem?_eq_some_iff.mp here).1
      have insideToo : program.place keep k < (program.filter keep).length :=
        (List.getElem?_eq_some_iff.mp (getElem?_place here kept)).1
      simp [inside,insideToo]
    · intro k partner found
      simp [Array.getElem?_replicate] at found
  have noneOpened : ∀ start ∈ ([] : List Nat), program[start]? = some .loopOpen := by simp
  have resolved := scan_filter keepsOpen keepsClose List.drop_zero noneOpened empty
  rw [place_zero] at resolved
  exact resolved

end Jumps

end TapeArena
