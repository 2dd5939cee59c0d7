import Mathlib.Data.List.GetD
import TapeArena.Proofs.CodeUnits
import TapeArena.Proofs.Inputs
import TapeArena.Proofs.Rings

/-!
The echo. It reads a byte and, as long as that is not zero, writes it and reads the next one. Two steps bring the first
byte into the cell, and every round of three steps writes that byte and brings in the next one (`Echoes.round`), up to
the first zero or, if there is none, the end of the input. This gives the duration of the run and the step that exceeds
a cap (`duration_eq_echo`, `overflow_eq_echo`), and with them how it ends under any limits (`run_ends_echo`).
-/
namespace TapeArena.Echo
open State

def source : Source := .text (lit ",[.,]")
/-- The echo with its jump table and an input. -/
def loaded (input : Bytes) : Loaded := ⟨source.program.toArray,#[none,some 4,none,none,some 1],input.toArray⟩
/-- The number of bytes that are echoed: those before the first zero, or all of them. -/
def amount (input : Bytes) : Nat := input.idxOf 0

variable {input : Bytes} {size k : Nat} {s : State}

theorem loads (input : Bytes) : Machine.load source.program input = .ok (loaded input) := rfl

/-! ### Bytes that are echoed -/

theorem getD_amount (input : Bytes) : input.getD (amount input) 0 = 0 := by
  by_cases inside : amount input < input.length
  · rw [List.getD_eq_getElem _ _ inside]
    exact List.getElem_idxOf inside
  · exact List.getD_eq_default _ _ (not_lt.mp inside)
theorem getD_ne_zero (before : k < amount input) : input.getD k 0 ≠ 0 := by
  have inside : k < input.length := Nat.lt_of_lt_of_le before List.idxOf_le_length
  rw [List.getD_eq_getElem _ _ inside]
  exact fun zero => by simpa [zero] using List.not_of_lt_findIdx before

/-! ### Rounds of the loop -/

/-- So many bytes were echoed and the next one stands in the cell, or a zero if there is none. If it is zero the loop is
    left, otherwise it is written next. -/
structure Echoes (size : Nat) (input : Bytes) (k : Nat) (s : State) : Prop where
  onRing : s.store.OnRing size
  current : s.store.current = input.getD k 0
  reads : s.store.reads = min (k + 1) input.length
  output : s.store.output.toList = input.take k
  position : s.position = if input.getD k 0 = 0 then 5 else 2

/-- A state in front of a read with a bracket behind it, where so many bytes were echoed. -/
structure Fetches (size : Nat) (input : Bytes) (k : Nat) (s : State) : Prop where
  onRing : s.store.OnRing size
  reads : s.store.reads = min k input.length
  output : s.store.output.toList = input.take k
  position : s.position = 0 ∨ s.position = 3

namespace Fetches
variable (fetches : Fetches size input k s)
include fetches

theorem next : s.next (loaded input) = some .input := by
  rcases fetches.position with start | inLoop
  · simp only [State.next,start]
    rfl
  · simp only [State.next,inLoop]
    rfl

/-- The bracket behind the read leads out of the loop on a zero and to the write on any other byte. -/
theorem bracket : ∃ command, (after (loaded input) 1 s).next (loaded input) = some command ∧
    (after (loaded input) 2 s).store = s.store.read input.toArray ∧
    (after (loaded input) 2 s).position = if (s.store.read input.toArray).current = 0 then 5 else 2 := by
  have read : after (loaded input) 1 s = ⟨s.store.read input.toArray,s.position + 1,s.steps + 1⟩ :=
    step_of_next fetches.next
  -- the opening bracket jumps on a zero, the closing one on any other byte
  rcases fetches.position with start | inLoop
  · rw [start] at read
    have here : (after (loaded input) 1 s).next (loaded input) = some .loopOpen := by
      rw [read]
      rfl
    refine ⟨.loopOpen,here,?_⟩
    rw [after_succ,step_of_next here,read]
    refine ⟨rfl,?_⟩
    show (if _ = (0 : UInt8) then 4 else 1) + 1 = _
    split <;> rfl
  · rw [inLoop] at read
    have here : (after (loaded input) 1 s).next (loaded input) = some .loopClose := by
      rw [read]
      rfl
    refine ⟨.loopClose,here,?_⟩
    rw [after_succ,step_of_next here,read]
    refine ⟨rfl,?_⟩
    show (if _ = (0 : UInt8) then 4 else 1) + 1 = _
    split <;> rfl

theorem echoes : Echoes size input k (after (loaded input) 2 s) := by
  obtain ⟨-,-,store,position⟩ := fetches.bracket
  have reads : s.store.reads = min k input.toArray.size := by rw [fetches.reads,List.size_toArray]
  have current : (s.store.read input.toArray).current = input.getD k 0 := by
    rw [Store.read_eq reads]
    exact (fetches.onRing.current_put _).trans (by simp)
  refine ⟨onRing_after fetches.onRing 2,?_,?_,?_,?_⟩
  · rw [store,current]
  · rw [store,Store.read_eq reads]
    exact congrArg (min (k + 1)) List.size_toArray
  · rw [store,Store.output_read,fetches.output]
  · rw [position,current]

end Fetches

namespace Echoes
variable (echoes : Echoes size input k s)
include echoes

theorem next (nonzero : input.getD k 0 ≠ 0) : s.next (loaded input) = some .output := by
  have position := echoes.position
  rw [if_neg nonzero] at position
  simp only [State.next,position]
  rfl
theorem ended (zero : input.getD k 0 = 0) : s.next (loaded input) = none := by
  have position := echoes.position
  rw [if_pos zero] at position
  simp only [State.next,position]
  rfl

/-- A byte that is not zero is written, and the next one is to be read. -/
theorem fetches (nonzero : input.getD k 0 ≠ 0) : Fetches size input (k + 1) (s.step (loaded input)) := by
  have inside : k < input.length := by
    by_contra beyond
    exact nonzero (List.getD_eq_default _ _ (not_lt.mp beyond))
  have position := echoes.position
  rw [if_neg nonzero] at position
  have written := step_of_next (echoes.next nonzero)
  refine ⟨onRing_step echoes.onRing,?_,?_,.inr ?_⟩
  · rw [written]
    exact echoes.reads
  · rw [written]
    show (s.store.output.push s.store.current).toList = _
    rw [Array.toList_push,echoes.output,echoes.current,List.getD_eq_getElem _ _ inside,List.take_append_getElem inside]
  · rw [written]
    exact congrArg (· + 1) position

/-- A round writes a byte that is not zero and reads the next one. -/
theorem round (nonzero : input.getD k 0 ≠ 0) : Echoes size input (k + 1) (after (loaded input) 3 s) :=
  (echoes.fetches nonzero).echoes

end Echoes

/-! ### The run without limits -/

theorem fetches_initial (nonempty : 1 ≤ size) (input : Bytes) : Fetches size input 0 (State.initial size) :=
  ⟨Store.onRing_initial nonempty,(Nat.zero_min _).symm,rfl,.inl rfl⟩

/-- As many rounds are made as there are bytes to be echoed. -/
theorem echoes_after (nonempty : 1 ≤ size) (le : k ≤ amount input) :
    Echoes size input k (after (loaded input) (2 + 3 * k) (State.initial size)) := by
  induction k with
  | zero => exact (fetches_initial nonempty input).echoes
  | succ k ih =>
    have echoed := (ih (Nat.le_of_succ_le le)).round (getD_ne_zero le)
    rwa [← after_add] at echoed

/-- The last command is the bracket behind the last read. -/
theorem next_before_end (nonempty : 1 ≤ size) (input : Bytes) : ∃ command,
    (after (loaded input) (1 + 3 * amount input) (State.initial size)).next (loaded input) = some command := by
  cases isAmount : amount input with
  | zero =>
    obtain ⟨command,here,-⟩ := (fetches_initial nonempty input).bracket
    exact ⟨command,here⟩
  | succ k =>
    have before : k < amount input := isAmount ▸ Nat.lt_succ_self k
    have fetches := (echoes_after nonempty (Nat.le_of_lt before)).fetches (getD_ne_zero before)
    obtain ⟨command,here,-⟩ := fetches.bracket
    rw [← after_succ,← after_add] at here
    exact ⟨command,(by omega : 1 + 3 * (k + 1) = 2 + 3 * k + 1 + 1) ▸ here⟩

theorem duration_eq_echo (nonempty : 1 ≤ size) (input : Bytes) :
    (State.initial size).duration (loaded input) = (2 + 3 * amount input : ℕ) := by
  obtain ⟨command,here⟩ := next_before_end nonempty input
  have goes : Goes (loaded input) (2 + 3 * amount input) (State.initial size) :=
    fun i lt => next_of_le (by omega) here
  exact duration_eq goes ((echoes_after nonempty le_rfl).ended (getD_amount input))

/-- Before every byte as many bytes were written as were echoed. -/
theorem performed_eq_echo (nonempty : 1 ≤ size) (le : k ≤ amount input) :
    performed (loaded input) .output (2 + 3 * k) (State.initial size) = k := by
  have written := writes_after (loaded input) (2 + 3 * k) (State.initial size)
  have fresh : (State.initial size).store.writes = 0 := rfl
  have inside : k ≤ input.length := Nat.le_trans le List.idxOf_le_length
  rw [fresh,Nat.zero_add,Store.writes,← Array.length_toList,(echoes_after nonempty le).output,
    List.length_take_of_le inside] at written
  exact written.symm

/-- The byte that exceeds a cap is the one that as many were echoed before as the cap allows. -/
theorem overflow_eq_echo (nonempty : 1 ≤ size) (before : k < amount input) :
    (State.initial size).overflow (loaded input) (some k) = (3 + 3 * k : ℕ) := by
  have writing := (echoes_after nonempty (Nat.le_of_lt before)).next (getD_ne_zero before)
  have exceeds := overflow_eq writing
  rw [performed_eq_echo nonempty (Nat.le_of_lt before)] at exceeds
  rw [exceeds]
  congr 1
  omega
/-- A cap that allows all bytes is not exceeded. -/
theorem overflow_eq_top_echo (nonempty : 1 ≤ size) {limit : Option Nat}
    (allows : ∀ cap, limit = some cap → amount input ≤ cap) :
    (State.initial size).overflow (loaded input) limit = ⊤ := by
  refine overflow_eq_top ((echoes_after nonempty le_rfl).ended (getD_amount input)) ?_
  intro i lt writing cap capped
  have earlier := performed_lt lt writing
  rw [performed_eq_echo nonempty le_rfl] at earlier
  exact Nat.lt_of_lt_of_le earlier (allows cap capped)

/-! ### Runs under limits -/

section
variable {machine : Machine} (nonempty : 1 ≤ machine.size) (input : Bytes)
include nonempty

theorem run_finishes (enough : 2 + 3 * amount input ≤ machine.limits.steps)
    (allows : ∀ cap, machine.limits.output = some cap → amount input ≤ cap) :
    let ran := machine.run Sink.silent () source.program input
    ran.1 = .ok (input.take (amount input)) ∧ ran.2.1.state.steps = 2 + 3 * amount input ∧
      ran.2.1.state.store.reads = min (amount input + 1) input.length := by
  have duration := duration_eq_echo nonempty input
  obtain ⟨n,isDuration,steps,result,left⟩ := machine.run_of_duration (loads input)
    (by rw [duration]; exact_mod_cast enough) (overflow_eq_top_echo nonempty allows)
  obtain rfl : 2 + 3 * amount input = n := by exact_mod_cast duration.symm.trans isDuration
  have echoes := echoes_after nonempty (le_refl (amount input))
  refine ⟨result.trans (congrArg _ echoes.output),?_,?_⟩
  · rw [left,steps]
  · rw [left,echoes.reads]

theorem run_exceeds {cap : Nat} (capped : machine.limits.output = some cap) (beyond : cap < amount input)
    (enough : 3 + 3 * cap ≤ machine.limits.steps) :
    (machine.run Sink.silent () source.program input).1 = .error (.fault (.outputLimit (.ofNat cap))) := by
  have overflow := overflow_eq_echo nonempty beyond
  rw [← capped] at overflow
  obtain ⟨-,-,limit,limited,-,result,-⟩ := machine.run_of_overflow (loads input)
    (by rw [overflow]; exact_mod_cast enough)
  cases capped.symm.trans limited
  exact result

theorem run_stops
    (unfinished : ¬ (2 + 3 * amount input ≤ machine.limits.steps ∧
      ∀ cap, machine.limits.output = some cap → amount input ≤ cap))
    (within : ∀ cap, machine.limits.output = some cap → cap < amount input → ¬ 3 + 3 * cap ≤ machine.limits.steps) :
    (machine.run Sink.silent () source.program input).1 =
      .error (.fault (.stepLimit (.ofNat machine.limits.steps))) := by
  by_cases allows : ∀ cap, machine.limits.output = some cap → amount input ≤ cap
  · refine (machine.run_of_neither (loads input) ?_ ?_).2.1
    · rw [overflow_eq_top_echo nonempty allows]
      exact not_le.mpr (ENat.natCast_lt_top _)
    · rw [duration_eq_echo nonempty input]
      exact fun finished => unfinished ⟨by exact_mod_cast finished.1,allows⟩
  · push Not at allows
    obtain ⟨cap,capped,beyond⟩ := allows
    refine (machine.run_of_neither (loads input) ?_ ?_).2.1
    · rw [capped,overflow_eq_echo nonempty beyond]
      exact fun enough => within cap capped beyond (by exact_mod_cast enough)
    · rw [capped,overflow_eq_echo nonempty beyond]
      exact fun finished => ENat.natCast_ne_top _ finished.2

end

/-! ### Text -/

/-- A text of bytes other than zero is fed as so many bytes, all of which are echoed. -/
theorem amount_feed {text : Text} (small : ∀ c ∈ text, 1 ≤ c.val ∧ c.val ≤ 255) :
    ∃ bytes, text = Text.ofBytes bytes ∧ (Source.text text).feed = bytes ∧ amount bytes = bytes.length := by
  obtain ⟨bytes,rfl⟩ := Text.exists_ofBytes_iff.mpr fun c member => (small c member).2
  refine ⟨bytes,rfl,(Text.carries_ofBytes bytes).lowBytes,List.idxOf_eq_length fun zero => ?_⟩
  exact absurd (small _ (List.mem_map_of_mem zero)).1 (by decide)

theorem evalText_echo {steps : Nat} {text : Text} (small : ∀ c ∈ text, 1 ≤ c.val ∧ c.val ≤ 255)
    (enough : 2 + 3 * text.length ≤ steps) : evalText steps source (.text text) = .ok text := by
  obtain ⟨bytes,rfl,feed,all⟩ := amount_feed small
  have length : (Text.ofBytes bytes).length = bytes.length := List.length_map _
  have inTime : 2 + 3 * amount bytes ≤ steps := by rwa [all,← length]
  have nonempty : 1 ≤ (Machine.new Machine.defaultSize ⟨steps,none⟩).size := by
    show 1 ≤ Machine.defaultSize
    decide
  have returned := (run_finishes nonempty bytes inTime nofun).1
  rw [all,List.take_length] at returned
  rw [evalText,evalBytes,feed]
  simp only [returned]

/-! ### How the echo ends -/

/-- The echo returns the bytes before the first zero if the steps suffice and the cap allows them. It exceeds a cap that
    allows fewer if the steps suffice for the byte behind those that it allows, and otherwise the limit on steps. A text
    of bytes other than zero is returned unchanged. -/
theorem run_ends_echo (machine : Machine) (nonempty : 1 ≤ machine.size) (input : Bytes) :
    let limits := machine.limits
    let z := input.idxOf 0
    let ran := machine.run Sink.silent () (Source.text (lit ",[.,]")).program input
    let finishes := 2 + 3 * z ≤ limits.steps ∧ ∀ cap, limits.output = some cap → z ≤ cap
    let exceeds := fun cap => limits.output = some cap ∧ cap < z ∧ 3 + 3 * cap ≤ limits.steps
    (ran.1 = .ok (input.take z) ∧ ran.2.1.state.steps = 2 + 3 * z ∧
      ran.2.1.state.store.reads = min (z + 1) input.length ↔ finishes) ∧
    (∀ cap : Nat, ran.1 = .error (.fault (.outputLimit cap)) ↔ exceeds cap) ∧
    (ran.1 = .error (.fault (.stepLimit limits.steps)) ↔ ¬ finishes ∧ ∀ cap, ¬ exceeds cap) ∧
    ∀ text : Text, (∀ c ∈ text, 1 ≤ c.val ∧ c.val ≤ 255) → ∀ steps, 2 + 3 * text.length ≤ steps →
      evalText steps (.text (lit ",[.,]")) (.text text) = .ok text := by
  intro limits z ran finishes exceeds
  have finished : finishes → _ := fun finishes => run_finishes nonempty input finishes.1 finishes.2
  have exceeded {cap : Nat} : exceeds cap → ran.1 = .error (.fault (.outputLimit cap)) :=
    fun exceeds => run_exceeds nonempty input exceeds.1 exceeds.2.1 exceeds.2.2
  have stopped (unfinished : ¬ finishes) (within : ∀ cap, ¬ exceeds cap) :
      ran.1 = .error (.fault (.stepLimit limits.steps)) :=
    run_stops nonempty input unfinished fun cap capped beyond enough => within cap ⟨capped,beyond,enough⟩
  refine ⟨⟨?_,finished⟩,fun cap => ⟨?_,exceeded⟩,⟨?_,fun neither => stopped neither.1 neither.2⟩,
    fun text small steps => evalText_echo small⟩
  · rintro ⟨returned,-⟩
    by_contra unfinished
    by_cases beyond : ∃ cap, exceeds cap
    · obtain ⟨cap,exceeds⟩ := beyond
      cases returned.symm.trans (exceeded exceeds)
    · cases returned.symm.trans (stopped unfinished (not_exists.mp beyond))
  · intro exceededCap
    by_cases finishes : finishes
    · cases exceededCap.symm.trans (finished finishes).1
    by_cases beyond : ∃ cap, exceeds cap
    · obtain ⟨other,exceeds⟩ := beyond
      cases exceededCap.symm.trans (exceeded exceeds)
      exact exceeds
    · cases exceededCap.symm.trans (stopped finishes (not_exists.mp beyond))
  · intro outOfSteps
    constructor
    · intro finishes
      cases outOfSteps.symm.trans (finished finishes).1
    · intro cap exceeds
      cases outOfSteps.symm.trans (exceeded exceeds)

/-- Two bytes before a zero under three pairs of limits: both come back after eight steps, the second one exceeds a cap
    of one byte with the sixth step, and five steps are too few for either. They suffice for a text of one character. -/
theorem run_ends_echo_two :
    let called := fun steps cap => (Machine.call 1 ⟨steps,some cap⟩ (Source.text (lit ",[.,]")).program [65,66,0,67]).1
    called 8 2 = .ok [65,66] ∧ called 8 1 = .error (.fault (.outputLimit 1)) ∧
      called 5 1 = .error (.fault (.stepLimit 5)) ∧
      evalText 5 (.text (lit ",[.,]")) (.text [0xFF]) = .ok [0xFF] := by
  intro called
  have allows : ∀ cap : Nat, some 2 = some cap → 2 ≤ cap := by
    rintro cap ⟨⟩
    exact le_rfl
  refine ⟨?_,?_,?_,?_⟩
  · exact ((run_ends_echo (.new 1 ⟨8,some 2⟩) le_rfl [65,66,0,67]).1.mpr ⟨le_rfl,allows⟩).1
  · exact ((run_ends_echo (.new 1 ⟨8,some 1⟩) le_rfl [65,66,0,67]).2.1 1).mpr ⟨rfl,by decide,by decide⟩
  · refine (run_ends_echo (.new 1 ⟨5,some 1⟩) le_rfl [65,66,0,67]).2.2.1.mpr ⟨fun finishes => ?_,?_⟩
    · exact absurd finishes.1 (by decide)
    · rintro cap ⟨capped,-,enough⟩
      cases capped
      exact absurd enough (by decide)
  · have small : ∀ c ∈ ([0xFF] : Text), 1 ≤ c.val ∧ c.val ≤ 255 :=
      List.forall_mem_singleton.mpr ⟨by decide,by decide⟩
    exact (run_ends_echo (.new 1 ⟨5,none⟩) le_rfl []).2.2.2 [0xFF] small 5 le_rfl

end TapeArena.Echo
