import Mathlib.Data.List.Basic
import TapeArena.Proofs.Endings
import TapeArena.Proofs.Omission

/-!
Comments only cost steps. A program runs beside the program without its comments: a comment takes a step and
changes neither the store nor the place in the other program (`Beside.step_comment`), any other command is
performed by both (`Beside.step`). So both end in the same way with the same store, and the steps differ by
the comments that were passed (`EndsAt.strip`); and a program whose commands come to an end comes to an end
itself (`EndsAt.of_strip`).
-/
namespace TapeArena

def Command.active (command : Command) : Bool := decide (command ≠ .comment)

/-- The characters of a text that stand for commands, all others left out. -/
def Text.commands (text : Text) : Text := text.filter fun c => (lit "><+-.,[]").contains c

theorem Command.active_ofCodePoint (c : CodePoint) :
    (ofCodePoint c).active = (lit "><+-.,[]").contains c := by
  have marks : (lit "><+-.,[]").map Fin.val = [62,60,43,45,46,44,91,93] := rfl
  have byNumber : (lit "><+-.,[]").contains c = ((lit "><+-.,[]").map Fin.val).contains c.val := by
    rw [Bool.eq_iff_iff,List.contains_iff_mem,List.contains_iff_mem,List.mem_map_of_injective fun _ _ => Fin.ext]
  rw [byNumber,marks]
  unfold ofCodePoint
  split <;> simp_all [active]

theorem Program.ofText_commands (text : Text) : ofText text.commands = (ofText text).strip := by
  have same : (fun c => (lit "><+-.,[]").contains c) = Command.active ∘ Command.ofCodePoint :=
    funext fun c => (Command.active_ofCodePoint c).symm
  rw [Text.commands,same]
  exact (List.filter_map ..).symm

/-- A program as it is loaded, and the program without its comments as it is loaded with the same input. -/
structure Loaded.Strips (program : Program) (loaded bare : Loaded) : Prop where
  code : loaded.code = program.toArray
  bareCode : bare.code = program.strip.toArray
  input : bare.input = loaded.input
  agrees : Jumps.Agrees Command.active program loaded.jumps bare.jumps

namespace State
open Program
variable {program : Program} {loaded bare : Loaded} {s t : State} {command : Command}

/-- A state in the program without comments beside a state in the program: the same store, at the place of the
    same command. -/
structure Beside (program : Program) (s t : State) : Prop where
  store : t.store = s.store
  position : t.position = program.place Command.active s.position

/-- Where no comment stands, a command is one that is performed on both sides. -/
theorem active_of_working (working : s.next loaded ≠ some .comment) (here : s.next loaded = some command) :
    command.active := by
  simp only [Command.active,decide_eq_true_eq]
  rintro rfl
  exact working here

section
variable (strips : Loaded.Strips program loaded bare) (beside : Beside program s t)
include strips beside

theorem Beside.next (here : s.next loaded = some command) (active : command.active) :
    t.next bare = some command := by
  simp only [State.next,strips.code,strips.bareCode,List.getElem?_toArray,beside.position] at here ⊢
  exact getElem?_place here active
theorem Beside.next_end (ended : s.next loaded = none) : t.next bare = none := by
  simp only [State.next,strips.code,strips.bareCode,List.getElem?_toArray,beside.position] at ended ⊢
  exact getElem?_place_end ended

/-- A comment is passed on one side only. -/
theorem Beside.step_comment (here : s.next loaded = some .comment) : Beside program (s.step loaded) t := by
  rw [step_of_next here]
  simp only [State.next,strips.code,List.getElem?_toArray] at here
  exact ⟨beside.store,beside.position.trans (place_succ_other here rfl).symm⟩

theorem Beside.landing (here : program[s.position]? = some command) (active : command.active) :
    t.landing bare command + 1 = program.place Command.active (s.landing loaded command + 1) := by
  have stays : t.position + 1 = program.place Command.active (s.position + 1) := by
    rw [beside.position,place_succ_kept here active]
  have jumps : bare.jumps.target t.position + 1 =
      program.place Command.active (loaded.jumps.target s.position + 1) := by
    rw [beside.position,strips.agrees.target here active]
  cases command with
  | loopOpen =>
    simp only [State.landing,beside.store]
    split
    · exact jumps
    · exact stays
  | loopClose =>
    simp only [State.landing,beside.store]
    split
    · exact stays
    · exact jumps
  | _ => exact stays

/-- Any other command is performed on both sides. -/
theorem Beside.step (here : s.next loaded = some command) (active : command.active) :
    Beside program (s.step loaded) (t.step bare) := by
  rw [step_of_next here,step_of_next (beside.next strips here active)]
  simp only [State.next,strips.code,List.getElem?_toArray] at here
  constructor
  · simp only [execute,beside.store,strips.input]
  · exact beside.landing strips here active

/-- Where no comment stands, both sides go on or end alike. -/
theorem Beside.end?_eq (working : s.next loaded ≠ some .comment) (cap : Option Nat) :
    t.end? bare cap = s.end? loaded cap := by
  cases here : s.next loaded with
  | none => rw [end?_of_ended here,end?_of_ended (beside.next_end strips here)]
  | some command =>
    have active := active_of_working working here
    exact end?_congr ((beside.next strips here active).trans here.symm) (congrArg Store.writes beside.store)

end

/-- A run beside which the program without comments runs: that one ends in the same way and at the same place,
    and takes one step less for every comment that was passed. -/
theorem EndsAt.strip (strips : Loaded.Strips program loaded bare) {cap : Option Nat} {n : Nat}
    {ending : Ending Empty} (ends : EndsAt loaded cap s n ending) (beside : Beside program s t) :
    ∃ m, EndsAt bare cap t m ending ∧ m + performed loaded .comment n s = n ∧
      Beside program (after loaded n s) (after bare m t) := by
  induction ends generalizing t with
  | @here s ending ends =>
    have working : s.next loaded ≠ some .comment := by
      intro here
      rw [end?_other here (by decide)] at ends
      cases ends
    exact ⟨0,.here ((beside.end?_eq strips working cap).trans ends),rfl,beside⟩
  | @later s n ending goes later ih =>
    obtain ⟨command,here⟩ := next_of_end?_none goes
    by_cases comment : command = .comment
    · subst comment
      obtain ⟨m,endsToo,counted,besideLast⟩ := ih (beside.step_comment strips here)
      refine ⟨m,endsToo,?_,besideLast⟩
      rw [performed_step_self here]
      omega
    · have active : command.active := by simp [Command.active,comment]
      have working : s.next loaded ≠ some .comment := by simp [here,comment]
      obtain ⟨m,endsToo,counted,besideLast⟩ := ih (beside.step strips here active)
      refine ⟨m + 1,.later ((beside.end?_eq strips working cap).trans goes) endsToo,?_,besideLast⟩
      rw [performed_step_other working]
      omega

/-- Induction over the comments at a state: they are passed one after another until none stands there. -/
theorem comment_induction (loaded : Loaded) {motive : State → Prop}
    (working : ∀ s, s.next loaded ≠ some .comment → motive s)
    (comment : ∀ s, s.next loaded = some .comment → motive (s.step loaded) → motive s) (s : State) :
    motive s := by
  by_cases here : s.next loaded = some .comment
  · exact comment s here (comment_induction loaded working comment (s.step loaded))
  · exact working s here
termination_by loaded.code.size - s.position
decreasing_by
  have inside : s.position < loaded.code.size := (Array.getElem?_eq_some_iff.mp here).1
  have moved : (s.step loaded).position = s.position + 1 := congrArg State.position (step_of_next here)
  omega

/-- The comments at a state can be passed first. -/
theorem Beside.pass_comments (strips : Loaded.Strips program loaded bare) (beside : Beside program s t)
    {cap : Option Nat} {ending : Ending Empty}
    (working : ∀ s, Beside program s t → s.next loaded ≠ some .comment → ∃ n, EndsAt loaded cap s n ending) :
    ∃ n, EndsAt loaded cap s n ending := by
  induction s using comment_induction loaded with
  | working s here => exact working s beside here
  | comment s here ih =>
    obtain ⟨n,later⟩ := ih (beside.step_comment strips here)
    exact ⟨n + 1,.later (end?_other here (by decide)) later⟩

/-- If the program without comments comes to an end, so does the program. -/
theorem EndsAt.of_strip (strips : Loaded.Strips program loaded bare) {cap : Option Nat} {m : Nat}
    {ending : Ending Empty} (ends : EndsAt bare cap t m ending) (beside : Beside program s t) :
    ∃ n, EndsAt loaded cap s n ending := by
  induction ends generalizing s with
  | here ends =>
    refine beside.pass_comments strips fun s beside working => ?_
    exact ⟨0,.here ((beside.end?_eq strips working cap).symm.trans ends)⟩
  | later goes _ ih =>
    refine beside.pass_comments strips fun s beside working => ?_
    have goesToo : s.end? loaded cap = none := (beside.end?_eq strips working cap).symm.trans goes
    obtain ⟨command,here⟩ := next_of_end?_none goesToo
    obtain ⟨n,later⟩ := ih (beside.step strips here (active_of_working working here))
    exact ⟨n + 1,.later goesToo later⟩

end State

namespace Machine
open State

section
variable {size : Nat} {cap : Option Nat} {program : Program} {input : Bytes} {loaded : Loaded}

/-- A program with a bracket that has no partner has it without its comments too, at the place of the bracket. -/
theorem ofProgram_strip_error {fault : BracketFault} (rejected : Jumps.ofProgram program = .error fault) :
    program[fault.position]? = some fault.bracket ∧
      Jumps.ofProgram program.strip = .error (fault.move (program.place Command.active)) := by
  have alike : Jumps.Alike Command.active program _ _ := Jumps.ofProgram_filter rfl rfl program
  rw [rejected] at alike
  exact alike.of_error
/-- A program whose brackets have partners has them without its comments too. -/
theorem ofProgram_strip_ok {jumps : Jumps} (resolves : Jumps.ofProgram program = .ok jumps) :
    ∃ bare, Jumps.ofProgram program.strip = .ok bare ∧ Jumps.Agrees Command.active program jumps bare := by
  have alike : Jumps.Alike Command.active program _ _ := Jumps.ofProgram_filter rfl rfl program
  rw [resolves] at alike
  exact alike.of_ok

theorem load_strip (loads : load program input = .ok loaded) :
    ∃ bare, load program.strip input = .ok bare ∧ Loaded.Strips program loaded bare := by
  obtain ⟨jumps,resolves,rfl⟩ := load_eq_ok.mp loads
  obtain ⟨table,resolvesBare,agrees⟩ := ofProgram_strip_ok resolves
  exact ⟨⟨program.strip.toArray,table,input.toArray⟩,load_eq_ok.mpr ⟨table,resolvesBare,rfl⟩,rfl,rfl,rfl,agrees⟩

theorem beside_initial (program : Program) (size : Nat) :
    Beside program (State.initial size) (State.initial size) :=
  ⟨rfl,(Program.place_zero ..).symm⟩

/-- What a program comes to without a limit on its steps, it comes to without its comments. -/
theorem Ends.strip (loads : load program input = .ok loaded) {result : Except (Halt Empty) Bytes} {last : State}
    (ends : Ends size cap program input result last) :
    ∃ bareLast, Ends size cap program.strip input result bareLast ∧ bareLast.store = last.store ∧
      last.steps = bareLast.steps + performed loaded .comment last.steps (State.initial size) := by
  obtain ⟨n,ending,endsAt,rfl,rfl⟩ := ends.exists_endsAt loads
  obtain ⟨bare,loadsBare,strips⟩ := load_strip loads
  obtain ⟨m,endsBare,counted,beside⟩ := endsAt.strip strips (beside_initial program size)
  obtain ⟨endsToo,sameStore⟩ := ends_of_store loadsBare endsBare beside.store
  refine ⟨_,endsToo,sameStore,?_⟩
  rw [steps_of_endsAt endsAt,steps_of_endsAt endsBare,endsAt.performed_begun (by decide)]
  omega

/-- What a program comes to without its comments, it comes to. -/
theorem Ends.of_strip (loads : load program input = .ok loaded) {result : Except (Halt Empty) Bytes}
    {bareLast : State} (ends : Ends size cap program.strip input result bareLast) :
    ∃ last, Ends size cap program input result last := by
  obtain ⟨bare,loadsBare,strips⟩ := load_strip loads
  obtain ⟨m,ending,endsBare,rfl,rfl⟩ := ends.exists_endsAt loadsBare
  obtain ⟨n,endsAt⟩ := endsBare.of_strip strips (beside_initial program size)
  have endsHere := ends_of_endsAt loads endsAt
  obtain ⟨other,endsThere,-⟩ := endsHere.strip loads
  obtain ⟨same,-⟩ := endsThere.unique ends
  rw [← same]
  exact ⟨_,endsHere⟩

end

/-- Comments only cost steps. A bracket without a partner is the same one with and without the comments of a
    program. Without a limit on its steps, a program comes to an end if it does so without its comments: with the
    same result and the same store, in as many more steps as it performs comments. So a limit on steps that
    does not stop the program gives the same result and the same store without the comments. -/
theorem call_commands (size : Nat) (cap : Option Nat) (text : Text) (input : Bytes) :
    let program := Program.ofText text
    let bare := Program.ofText text.commands
    let place := program.place Command.active
    (∀ limits fault, (call size limits program input).1 = .error (.fault (Fault.ofBracket fault)) →
      program[fault.position]? = some fault.bracket ∧ bare[place fault.position]? = some fault.bracket ∧
        (call size limits bare input).1 = .error (.fault (Fault.ofBracket (fault.move place)))) ∧
    (∀ limits fault, (call size limits bare input).1 = .error (.fault (Fault.ofBracket fault)) →
      ∃ original, (call size limits program input).1 = .error (.fault (Fault.ofBracket original))) ∧
    ∀ loaded, load program input = .ok loaded →
      (∀ result last, Ends size cap program input result last →
        ∃ bareLast, Ends size cap bare input result bareLast ∧ bareLast.store = last.store ∧
          last.steps = bareLast.steps + performed loaded .comment last.steps (State.initial size)) ∧
      (∀ result bareLast, Ends size cap bare input result bareLast →
        ∃ last, Ends size cap program input result last) ∧
      ∀ steps,
        let ran := call size ⟨steps,cap⟩ program input
        let ranBare := call size ⟨steps,cap⟩ bare input
        ran.1 ≠ .error (.fault (.stepLimit (.ofNat steps))) →
          Ends size cap program input ran.1 ran.2 ∧ ranBare.1 = ran.1 ∧ ranBare.2.store = ran.2.store := by
  intro program bare place
  have bareIs : bare = program.strip := Program.ofText_commands text
  rw [bareIs]
  refine ⟨?_,?_,?_⟩
  · intro limits fault rejected
    obtain ⟨there,rejectedBare⟩ := ofProgram_strip_error (call_eq_bracket.mp rejected)
    have active : fault.bracket.active := by cases fault <;> rfl
    exact ⟨there,Program.getElem?_place there active,call_eq_bracket.mpr rejectedBare⟩
  · intro limits fault rejected
    cases resolves : Jumps.ofProgram program with
    | error original => exact ⟨original,call_eq_bracket.mpr resolves⟩
    | ok jumps =>
      obtain ⟨table,resolvesBare,-⟩ := ofProgram_strip_ok resolves
      cases resolvesBare.symm.trans (call_eq_bracket.mp rejected)
  · intro loaded loads
    refine ⟨fun result last ends => ends.strip loads,fun result bareLast ends => ends.of_strip loads,?_⟩
    intro steps ran ranBare unlimited
    obtain ⟨ends,enough⟩ := ends_of_call loads unlimited
    obtain ⟨bareLast,endsBare,sameStore,fewer⟩ := ends.strip loads
    have given : ranBare = (ran.1,bareLast) := endsBare steps (by omega)
    rw [given]
    exact ⟨ends,rfl,sameStore⟩

/-- A loop with comments inside and around it, which are passed eight times in all. -/
theorem call_commands_loop :
    let text := lit "a+++[b.c-]d"
    let program := Program.ofText text
    let jumps : Jumps := #[none,none,none,none,some 9,none,none,none,none,some 4,none]
    let loaded : Loaded := ⟨program.toArray,jumps,#[]⟩
    load program [] = .ok loaded ∧
      (call 1 ⟨21,some 3⟩ program []).1 ≠ .error (.fault (.stepLimit 21)) ∧
      (call 1 ⟨21,some 3⟩ (Program.ofText text.commands) []).1 = .ok [3,2,1] := by
  intro text program jumps loaded
  have loads : load program [] = .ok loaded := rfl
  obtain ⟨-,-,accepted⟩ := call_commands 1 (some 3) text []
  obtain ⟨-,-,limited⟩ := accepted loaded loads
  have unlimited : (call 1 ⟨21,some 3⟩ program []).1 ≠ .error (.fault (.stepLimit 21)) := by decide
  obtain ⟨-,result,-⟩ := limited 21 unlimited
  exact ⟨loads,unlimited,result.trans (by decide)⟩

end Machine

end TapeArena
