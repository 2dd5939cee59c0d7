import TapeArena.Proofs.Limits
import TapeArena.Proofs.Trials

/-!
Output as text and output as bytes. No run writes more bytes than it takes steps (`Machine.writes_le`), so a cap that
allows as many bytes as steps is never exceeded; a smaller one makes a difference only to a run that writes more than
it allows (`Machine.call_of_within_cap`, `Machine.call_of_beyond_cap`). Apart from that the two outputs are the same,
one character for each byte, and a text of such characters is read as the bytes it was made from
(`evalText_agrees_evalBytes`).
-/
namespace TapeArena
variable {loaded : Loaded} {s : State}

/-! ### Texts that carry bytes -/

/-- The characters of a text have bytes as their code points, in order. -/
def Text.Carries (text : Text) (bytes : Bytes) : Prop := text.map Fin.val = bytes.map UInt8.toNat

namespace Text

theorem carries_ofBytes (bytes : Bytes) : (ofBytes bytes).Carries bytes := by
  simp [Carries,ofBytes,CodePoint.ofByte]

/-- A code point that is a byte is fed as that byte. -/
theorem lowBytes_byte {c : CodePoint} {b : UInt8} (same : c.val = b.toNat) : lowBytes [c] = [b] := by
  have small : b.toNat < 0x10000 := Nat.lt_trans b.toNat_lt (by decide)
  simp [lowBytes,units,CodePoint.units,same,small]

/-- A text that carries bytes is fed as these bytes. -/
theorem Carries.lowBytes {text : Text} {bytes : Bytes} (carries : text.Carries bytes) : text.lowBytes = bytes := by
  induction text generalizing bytes with
  | nil =>
    cases bytes with
    | nil => rfl
    | cons => cases carries
  | cons c text ih =>
    cases bytes with
    | nil => cases carries
    | cons b bytes =>
      obtain ⟨same,later⟩ := List.cons.inj carries
      rw [← List.singleton_append,lowBytes_append,lowBytes_byte same,ih later]
      rfl

end Text

/-! ### How much a run writes -/

namespace State

theorem performed_le_steps (loaded : Loaded) (command : Command) (n : Nat) (s : State) :
    performed loaded command n s ≤ n := by
  induction n with
  | zero => exact Nat.le_refl 0
  | succ n ih =>
    rw [performed]
    split <;> omega

/-- A command that is performed more than `count` times is performed once after `count` performances. -/
theorem exists_performed {command : Command} {count n : Nat} (more : count < performed loaded command n s) :
    ∃ m < n, (after loaded m s).next loaded = some command ∧ performed loaded command m s = count := by
  induction n with
  | zero => cases more
  | succ n ih =>
    by_cases before : count < performed loaded command n s
    · obtain ⟨m,lt,found⟩ := ih before
      exact ⟨m,Nat.lt_succ_of_lt lt,found⟩
    -- the count went beyond with the last step, by one
    · by_cases here : (after loaded n s).next loaded = some command
      · rw [performed_succ_self here] at more
        exact ⟨n,Nat.lt_succ_self n,here,by omega⟩
      · rw [performed_succ_other here] at more
        exact absurd more before

/-- A cap that is not reached where a byte is to be written makes no difference to what comes of a state. -/
theorem stop?_capped {steps allowed cap : Nat} (within : s.next loaded = some .output → s.store.writes < cap) :
    s.stop? loaded ⟨steps,some cap⟩ allowed = s.stop? loaded ⟨steps,none⟩ allowed := by
  cases here : s.next loaded with
  | none => rw [stop?_of_ended here,stop?_of_ended here]
  | some command =>
    cases allowed with
    | zero => rw [stop?_zero here,stop?_zero here]
    | succ allowed =>
      by_cases writing : command = .output
      · subst writing
        have below : ∀ most, some cap = some most → s.store.writes < most := by
          rintro most ⟨⟩
          exact within here
        have uncapped : ∀ most, none = some most → s.store.writes < most := nofun
        rw [stop?_output here,stop?_output here,Limits.reached?_eq_none.mpr below,
          Limits.reached?_eq_none.mpr uncapped]
      · rw [stop?_other here writing,stop?_other here writing]

/-- Where a run without a cap stops, it stops under every cap. -/
theorem stop?_capped_of_stops {steps allowed : Nat} {ending : Ending Empty} (cap : Nat)
    (stops : s.stop? loaded ⟨steps,none⟩ allowed = some ending) :
    s.stop? loaded ⟨steps,some cap⟩ allowed = some ending := by
  cases verdict_of stops with
  | ended ended => exact stop?_of_ended ended allowed
  | spent here => exact stop?_zero here
  | exceeds writing reached => cases (Limits.reached?_eq_some.mp reached).1

/-- A run without a cap stops in the same way under a cap that it does not exceed. -/
theorem StopsAt.capped {steps allowed n cap : Nat} {ending : Ending Empty}
    (stopsAt : StopsAt loaded ⟨steps,none⟩ allowed s n ending) (within : (after loaded n s).store.writes ≤ cap) :
    StopsAt loaded ⟨steps,some cap⟩ allowed s n ending := by
  constructor
  · intro i lt
    rw [stop?_capped fun writing => ?_]
    · exact stopsAt.goes i lt
    · have one_more := performed_lt lt writing
      rw [writes_after] at within ⊢
      omega
  · exact stop?_capped_of_stops cap stopsAt.stops

end State

namespace Machine
open State
variable {size steps cap : Nat} {program : Program} {input : Bytes}

/-- No run writes more bytes than it may take steps. -/
theorem writes_le (size steps : Nat) (program : Program) (input : Bytes) :
    (call size ⟨steps,none⟩ program input).2.store.writes ≤ steps := by
  cases loads : load program input with
  | error fault =>
    rw [call_of_rejected loads]
    exact Nat.zero_le steps
  | ok loaded =>
    obtain ⟨n,ending,stopsAt⟩ := (State.initial size).exists_stopsAt loaded ⟨steps,none⟩ steps
    rw [call_of_stopsAt loads stopsAt,store_stopped,writes_after]
    have few := performed_le_steps loaded .output n (State.initial size)
    have allowed := stopsAt.le_allowed
    have fresh : (State.initial size).store.writes = 0 := rfl
    omega

/-- A run without a cap exceeds none. -/
theorem call_ne_outputLimit (size steps : Nat) (program : Program) (input : Bytes) (limit : Int) :
    (call size ⟨steps,none⟩ program input).1 ≠ .error (.fault (.outputLimit limit)) := by
  have outcome := outcome_call size ⟨steps,none⟩ program input
  generalize (call size ⟨steps,none⟩ program input).1 = result at outcome ⊢
  cases outcome with
  | rejected fault => cases fault <;> nofun
  | finished bytes => nofun
  | spent => nofun
  | exceeds capped => cases capped

/-- A cap that a run without a cap does not exceed makes no difference. -/
theorem call_of_within_cap (within : (call size ⟨steps,none⟩ program input).2.store.writes ≤ cap) :
    call size ⟨steps,some cap⟩ program input = call size ⟨steps,none⟩ program input := by
  cases loads : load program input with
  | error fault => rw [call_of_rejected loads,call_of_rejected loads]
  | ok loaded =>
    obtain ⟨n,ending,stopsAt⟩ := (State.initial size).exists_stopsAt loaded ⟨steps,none⟩ steps
    have uncapped := call_of_stopsAt loads stopsAt
    rw [uncapped,store_stopped] at within
    rw [uncapped]
    exact call_of_stopsAt loads (stopsAt.capped within)

/-- A run that writes more bytes without a cap exceeds it. -/
theorem call_of_beyond_cap (beyond : cap < (call size ⟨steps,none⟩ program input).2.store.writes) :
    (call size ⟨steps,some cap⟩ program input).1 = .error (.fault (.outputLimit (.ofNat cap))) := by
  cases loads : load program input with
  | error fault =>
    rw [call_of_rejected loads] at beyond
    cases beyond
  | ok loaded =>
    obtain ⟨n,ending,stopsAt⟩ := (State.initial size).exists_stopsAt loaded ⟨steps,none⟩ steps
    have fresh : (State.initial size).store.writes = 0 := rfl
    rw [call_of_stopsAt loads stopsAt,store_stopped,writes_after,fresh,Nat.zero_add] at beyond
    obtain ⟨m,lt,writing,full⟩ := exists_performed beyond
    have inTime : m + 1 ≤ steps := Nat.le_trans lt stopsAt.le_allowed
    have overflows : (State.initial size).overflow loaded (some cap) ≤ (steps : ℕ) := by
      rw [← full,overflow_eq writing]
      exact_mod_cast inTime
    obtain ⟨-,-,most,capped,-,result,-⟩ := (new size ⟨steps,some cap⟩).run_of_overflow loads overflows
    cases capped
    exact result

end Machine

/-! ### Text and bytes -/

/-- What came out as text and what came out as bytes agree: the same fault, or a text that carries the bytes. -/
inductive SameOutput : Except Fault Text → Except (Halt Empty) Bytes → Prop
  | returned {text : Text} {bytes : Bytes} (carries : text.Carries bytes) : SameOutput (.ok text) (.ok bytes)
  | failed (fault : Fault) : SameOutput (.error fault) (.error (.fault fault))

theorem evalText_agrees (steps : Nat) (program input : Source) :
    SameOutput (evalText steps program input)
      (Machine.call Machine.defaultSize ⟨steps,none⟩ program.program input.feed).1 := by
  have same : (evalBytes ⟨steps,none⟩ Sink.silent () program input).1 =
      (Machine.call Machine.defaultSize ⟨steps,none⟩ program.program input.feed).1 := rfl
  rw [evalText,same]
  rcases (Machine.call Machine.defaultSize ⟨steps,none⟩ program.program input.feed).1 with (fault | reason) | bytes
  · exact .failed fault
  · exact reason.elim
  · exact .returned (Text.carries_ofBytes bytes)

/-- The text that a program gives as output and the bytes that it gives under a cap agree unless it writes more bytes
    within its steps than the cap allows; then it exceeds the cap as soon as its output is bytes. A cap that allows as
    many bytes as steps is never exceeded. The text is as good an input for any program as the bytes. -/
theorem evalText_agrees_evalBytes (steps : Nat) (program input : Source) :
    let text := evalText steps program input
    let bytes := fun cap : Nat => (evalBytes ⟨steps,some cap⟩ Sink.silent () program input).1
    let written := (Machine.call Machine.defaultSize ⟨steps,none⟩ program.program input.feed).2.store.writes
    (∀ cap, steps ≤ cap →
      SameOutput text (bytes cap) ∧ ∀ limit, bytes cap ≠ .error (.fault (.outputLimit limit))) ∧
    (∀ cap, written ≤ cap → SameOutput text (bytes cap)) ∧
    (∀ cap, cap < written → bytes cap = .error (.fault (.outputLimit cap))) ∧
    ∀ string, text = .ok string → ∀ answer, string.Carries answer → ∀ reader : Source,
      (∀ more, evalText more reader (.text string) = evalText more reader (.bytes answer)) ∧
      ∀ (σ ε : Type) (limits : Limits) (sink : Sink σ ε) (memory : σ),
        evalBytes limits sink memory reader (.text string) = evalBytes limits sink memory reader (.bytes answer) := by
  intro text bytes written
  have uncapped : ∀ cap, written ≤ cap →
      bytes cap = (Machine.call Machine.defaultSize ⟨steps,none⟩ program.program input.feed).1 :=
    fun cap within => congrArg Prod.fst (Machine.call_of_within_cap within)
  refine ⟨?_,?_,?_,?_⟩
  · intro cap enough
    rw [uncapped cap (Nat.le_trans (Machine.writes_le ..) enough)]
    exact ⟨evalText_agrees steps program input,Machine.call_ne_outputLimit _ _ _ _⟩
  · intro cap within
    rw [uncapped cap within]
    exact evalText_agrees steps program input
  · exact fun cap beyond => Machine.call_of_beyond_cap beyond
  · intro string _ answer carries reader
    have sameFeed : (Source.text string).feed = (Source.bytes answer).feed := carries.lowBytes
    have same : ∀ (σ ε : Type) (limits : Limits) (sink : Sink σ ε) (memory : σ),
        evalBytes limits sink memory reader (.text string) = evalBytes limits sink memory reader (.bytes answer) := by
      intro σ ε limits sink memory
      rw [evalBytes,evalBytes,sameFeed]
    refine ⟨fun more => ?_,same⟩
    rw [evalText,evalText,same]

end TapeArena
