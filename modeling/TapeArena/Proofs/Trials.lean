import TapeArena.Proofs.Actions
import TapeArena.Proofs.Endings
import TapeArena.Proofs.Inputs
import TapeArena.Trial

/-!
Trials report calls. Settings that were read once are read again without a change, so every limit that a trial
needs is there as soon as it is given or the settings can be read (`Limit.Taken`), and then there is a trial
(`Trial.run_of_taken`). It reports what the call under these limits gives: the output, or else the fault, and
the steps and reads of the run in either case (`Trial.run_reports`).
-/
namespace TapeArena
variable {session after : Session} {settings : Settings}

/-! ### Limits of a trial -/

namespace Session

theorem settings_of_cached (cached : session.cached = some settings) :
    Session.settings session = (.ok settings,session) := by
  rw [Session.settings,Action.bind_get]
  simp only [cached]
  rfl
/-- Settings that were read are kept. -/
theorem cached_of_settings (read : Session.settings session = (.ok settings,after)) :
    after.cached = some settings := by
  cases cached : session.cached with
  | some kept =>
    cases (settings_of_cached cached).symm.trans read
    exact cached
  | none =>
    rw [Session.settings,Action.bind_get] at read
    simp only [cached] at read
    obtain ⟨loaded,between,-,keeps⟩ := Action.of_bind_ok read
    cases keeps
    rfl

end Session

/-- The value of a limit in a session: the one that is given or, if none is, that of the settings. -/
inductive Limit.Taken (session : Session) (limit : Limit) (setting : Settings → Nat) : Datum → Nat → Prop
  | given {value : Datum} {n : Nat} (reads : limit.read value = .ok n) : Taken session limit setting value n
  | left {settings : Settings} (read : (Session.settings session).1 = .ok settings) :
    Taken session limit setting .null (setting settings)

/-- A limit that is left out is taken from settings that can be read. -/
theorem Limit.Taken.exists_settings {limit : Limit} {setting : Settings → Nat} {value : Datum} {n : Nat}
    (taken : Limit.Taken session limit setting value n) (isNull : value.isNull) :
    ∃ settings, (Session.settings session).1 = .ok settings := by
  cases taken with
  | given reads =>
    cases value with
    | null => cases reads
    | _ => cases isNull
  | left read => exact ⟨_,read⟩

namespace Trial
variable {limit : Limit} {setting : Settings → Nat} {value : Datum} {n : Nat}

theorem limitOr_given (reads : limit.read value = .ok n) (session : Session) :
    limitOr limit setting value session = (.ok n,session) := by
  cases value with
  | null => cases reads
  | _ =>
    simp only [limitOr,reads]
    rfl
theorem limitOr_null (cached : session.cached = some settings) :
    limitOr limit setting .null session = (.ok (setting settings),session) := by
  have read := Action.adapt_of_ok ConfigError.setting (Session.settings_of_cached cached)
  exact (Action.bind_of_ok read).trans rfl

/-- The session in which a trial takes its limits: the settings are read unless both limits are given. -/
def prepared (session : Session) (steps output : Datum) : Session :=
  if steps.isNull || output.isNull then (Session.settings session).2 else session

theorem limitOr_of_taken (taken : Limit.Taken session limit setting value n)
    (read : value.isNull → after = (Session.settings session).2) :
    limitOr limit setting value after = (.ok n,after) := by
  cases taken with
  | given reads => exact limitOr_given reads after
  | left settingsAre =>
    apply limitOr_null
    exact Session.cached_of_settings (Prod.ext settingsAre (read rfl).symm)

variable {steps output : Datum} {cap : Nat}

/-- There is a trial as soon as its limits can be taken. -/
theorem run_of_taken (stepsAre : Limit.Taken session .steps Settings.stepLimit steps n)
    (capIs : Limit.Taken session .output Settings.outputLimit output cap) (program input : Source) :
    run program input steps output session =
      (.ok (ofLimits ⟨n,some cap⟩ program input),prepared session steps output) := by
  have takesSteps : limitOr .steps Settings.stepLimit steps (prepared session steps output) =
      (.ok n,prepared session steps output) :=
    limitOr_of_taken stepsAre fun isNull => by simp [prepared,isNull]
  have takesCap : limitOr .output Settings.outputLimit output (prepared session steps output) =
      (.ok cap,prepared session steps output) :=
    limitOr_of_taken capIs fun isNull => by simp [prepared,isNull]
  have runs : (do
      let steps ← limitOr .steps Settings.stepLimit steps
      let output ← limitOr .output Settings.outputLimit output
      return ofLimits ⟨steps,some output⟩ program input : Session.Action ConfigError Trial)
      (prepared session steps output) =
      (.ok (ofLimits ⟨n,some cap⟩ program input),prepared session steps output) :=
    (Action.bind_of_ok takesSteps).trans ((Action.bind_of_ok takesCap).trans rfl)
  by_cases isLeft : (steps.isNull || output.isNull) = true
  · obtain ⟨settings,settingsAre⟩ : ∃ settings, (Session.settings session).1 = .ok settings := by
      rcases Bool.or_eq_true_iff.mp isLeft with isNull | isNull
      · exact stepsAre.exists_settings isNull
      · exact capIs.exists_settings isNull
    have read : Session.settings session = (.ok settings,prepared session steps output) :=
      Prod.ext settingsAre (by rw [prepared,if_pos isLeft])
    rw [run,if_pos isLeft]
    have discarded := Action.adapt_of_ok ConfigError.setting read
    refine (Action.bind_of_ok ((Action.bind_of_ok discarded).trans rfl)).trans ?_
    exact runs
  · have unread : prepared session steps output = session := by rw [prepared,if_neg isLeft]
    rw [unread] at runs ⊢
    rw [run,if_neg isLeft]
    exact runs

end Trial

/-! ### Calls -/

namespace Machine
variable {size : Nat} {limits : Limits} {program : Program} {input : Bytes}

/-- All that can come of a call on a new machine: a bracket without a partner is found before the first step, and
    the steps are spent if they are what stops the run. -/
inductive Outcome (limits : Limits) : Except (Halt Empty) Bytes → State → Prop
  | rejected {s : State} (fault : BracketFault) (unbegun : s.steps = 0) (unread : s.store.reads = 0) :
    Outcome limits (.error (.fault (Fault.ofBracket fault))) s
  | finished {s : State} (bytes : Bytes) (within : s.steps ≤ limits.steps) : Outcome limits (.ok bytes) s
  | spent {s : State} (all : s.steps = limits.steps) :
    Outcome limits (.error (.fault (.stepLimit (.ofNat limits.steps)))) s
  | exceeds {s : State} {cap : Nat} (capped : limits.output = some cap) (within : s.steps ≤ limits.steps) :
    Outcome limits (.error (.fault (.outputLimit (.ofNat cap)))) s

theorem outcome_call (size : Nat) (limits : Limits) (program : Program) (input : Bytes) :
    Outcome limits (call size limits program input).1 (call size limits program input).2 := by
  cases loads : load program input with
  | error fault =>
    rw [call_of_rejected loads]
    exact .rejected fault rfl rfl
  | ok loaded =>
    obtain ⟨n,ending,stopsAt,steps,result,left⟩ := (new size limits).exists_run loads
    have resultIs : (call size limits program input).1 = _ := result
    have leftIs : (call size limits program input).2 = _ := left
    have le : n ≤ limits.steps := stopsAt.le_allowed
    rw [resultIs,leftIs]
    cases ending with
    | finished => exact .finished _ (Nat.le_trans (Nat.le_of_eq steps) le)
    | stepLimit limit =>
      obtain ⟨isLimit,noneLeft,-⟩ := State.of_stop?_stepLimit stopsAt.stops
      subst isLimit
      have noneLeft : limits.steps - n = 0 := noneLeft
      exact .spent (steps.trans (by omega))
    | outputLimit cap =>
      obtain ⟨-,someLeft,capped,-⟩ := State.of_stop?_outputLimit stopsAt.stops
      have someLeft : 0 < limits.steps - n := someLeft
      have begun : (State.stopped (State.after loaded n (State.initial size)) (.outputLimit cap)).steps = n + 1 :=
        congrArg (· + 1) steps
      exact .exceeds capped (Nat.le_trans (Nat.le_of_eq begun) (by omega))
    | refused reason => exact reason.elim

/-- No call reads more bytes than there are. -/
theorem reads_call_le (size : Nat) (limits : Limits) (program : Program) (input : Bytes) :
    (call size limits program input).2.store.reads ≤ input.length := by
  cases loads : load program input with
  | error fault =>
    rw [call_of_rejected loads]
    exact Nat.zero_le _
  | ok loaded =>
    obtain ⟨n,ending,-,-,-,left⟩ := (new size limits).exists_run loads
    have leftIs : (call size limits program input).2 = _ := left
    obtain ⟨jumps,-,rfl⟩ := load_eq_ok.mp loads
    rw [leftIs,State.store_stopped,State.reads_after _ rfl]
    exact Nat.min_le_right ..

end Machine

namespace Trial
open Machine

/-- The trial that tells of a call. -/
def ofCall : Except (Halt Empty) Bytes × State → Trial
  | (.ok bytes,s) => ⟨some bytes,s.steps,s.store.reads,none⟩
  | (.error (.fault fault),s) => ⟨none,s.steps,s.store.reads,some fault⟩

theorem ofLimits_eq (limits : Limits) (program input : Source) :
    ofLimits limits program input = ofCall (call defaultSize limits program.program input.feed) := by
  rcases ran : (new defaultSize limits).run Sink.silent () program.program input.feed with ⟨result,machine,memory⟩
  cases result with
  | ok bytes => simp only [ofLimits,call,ran,ofCall]
  | error halt =>
    cases halt with
    | fault fault => simp only [ofLimits,call,ran,ofCall]
    | refused reason => exact reason.elim

/-- What a trial tells of a call whose steps and output are limited. A bracket without a partner is found before
    the first step; a trial that spent its steps names their number. -/
structure Reports (steps cap : Nat) (input : Bytes) (result : Except (Halt Empty) Bytes) (trial : Trial) : Prop where
  steps_le : trial.steps ≤ steps
  reads_le : trial.reads ≤ input.length
  returned : ∀ bytes, result = .ok bytes → trial.ok ∧ trial.output = some bytes ∧ trial.fault = none
  failed : ∀ fault, result = .error (.fault fault) →
    ¬ trial.ok ∧ trial.output = none ∧ trial.fault = some fault ∧
      ((∃ bracket, fault = Fault.ofBracket bracket ∧ trial.steps = 0 ∧ trial.reads = 0) ∨
        (fault = .stepLimit (.ofNat steps) ∧ trial.steps = steps ∧
          fault.message = lit "Exceeded maximum step limit of " ++ Text.ofInt (.ofNat steps)) ∨
        fault = .outputLimit (.ofNat cap))

theorem ofCall_reports (size steps cap : Nat) (program : Program) (input : Bytes) :
    Reports steps cap input (call size ⟨steps,some cap⟩ program input).1
      (ofCall (call size ⟨steps,some cap⟩ program input)) := by
  have outcome := outcome_call size ⟨steps,some cap⟩ program input
  have reads := reads_call_le size ⟨steps,some cap⟩ program input
  rcases ran : call size ⟨steps,some cap⟩ program input with ⟨result,s⟩
  rw [ran] at outcome reads
  cases outcome with
  | rejected fault unbegun unread =>
    refine ⟨Nat.le_trans (Nat.le_of_eq unbegun) (Nat.zero_le _),reads,by simp,?_⟩
    intro same isFault
    cases isFault
    exact ⟨by simp [ofCall,ok],rfl,rfl,.inl ⟨fault,rfl,unbegun,unread⟩⟩
  | finished bytes within =>
    refine ⟨within,reads,?_,by simp⟩
    intro same isOutput
    cases isOutput
    exact ⟨rfl,rfl,rfl⟩
  | spent all =>
    refine ⟨Nat.le_of_eq all,reads,by simp,?_⟩
    intro same isFault
    cases isFault
    exact ⟨by simp [ofCall,ok],rfl,rfl,.inr (.inl ⟨rfl,all,rfl⟩)⟩
  | exceeds capped within =>
    refine ⟨within,reads,by simp,?_⟩
    intro same isFault
    cases isFault
    cases capped
    exact ⟨by simp [ofCall,ok],rfl,rfl,.inr (.inr rfl)⟩

/-- A trial has no output or succeeds, and then its output is what the call returned. -/
theorem ofCall_cases (made : Except (Halt Empty) Bytes × State) :
    (¬ (ofCall made).ok ∧ (ofCall made).output = none) ∨
      (ofCall made).ok ∧ ∃ bytes, made.1 = .ok bytes ∧ (ofCall made).output = some bytes := by
  rcases made with ⟨result,s⟩
  cases result with
  | ok bytes => exact .inr ⟨rfl,bytes,rfl,rfl⟩
  | error halt =>
    cases halt with
    | fault fault => exact .inl ⟨by simp [ofCall,ok],rfl⟩
    | refused reason => exact reason.elim

/-- If the limits can be taken there is a trial, and it reports the call under these limits. The answer to a number
    is the first byte of the trial on that number modulo 256, under the output limit of the settings. -/
theorem run_reports {steps : Datum} {n : Nat}
    (stepsAre : Limit.Taken session .steps Settings.stepLimit steps n) (program : Source) :
    (∀ output cap, Limit.Taken session .output Settings.outputLimit output cap → ∀ input : Source,
      ∃ trial, run program input steps output session = (.ok trial,prepared session steps output) ∧
        Reports n cap input.feed (evalBytes ⟨n,some cap⟩ Sink.silent () program input).1 trial) ∧
    ∀ settings, (Session.settings session).1 = .ok settings → ∀ x : Int,
      ∃ byte : UInt8, (byte.toNat : Int) = x % 256 ∧
      ∃ trial, run program (.bytes [byte]) (.int n) (.int settings.outputLimit) session = (.ok trial,session) ∧
        answer program x steps session =
          (.ok (if trial.ok then (trial.output.getD []).head? else none),prepared session steps .null) := by
  refine ⟨?_,?_⟩
  · intro output cap capIs input
    refine ⟨_,run_of_taken stepsAre capIs program input,?_⟩
    rw [ofLimits_eq]
    exact ofCall_reports defaultSize n cap program.program input.feed
  · intro settings read x
    refine ⟨UInt8.ofNat (x % 256).toNat,?_,_,run_of_taken (.given rfl) (.given rfl) program _,?_⟩
    · rw [UInt8.toNat_ofNat']
      omega
    · have tried := run_of_taken stepsAre (.left read) program (.bytes [UInt8.ofNat (x % 256).toNat])
      refine (Action.bind_of_ok tried).trans ?_
      rw [ofLimits_eq]
      rcases ofCall_cases (call defaultSize _ program.program _) with ⟨fails,noOutput⟩ | ⟨succeeds,bytes,-,isOutput⟩
      · rw [if_neg fails,noOutput]
        rfl
      · rw [if_pos succeeds,isOutput]
        rfl

/-- A program that spends the steps of the settings, and one that answers what it reads. -/
theorem run_reports_spent :
    let session : Session := ⟨4,[],[],some ⟨2,1,true,1⟩⟩
    let idle : Source := .text (lit "abc")
    let echo : Source := .text (lit ",.")
    Limit.Taken session .steps Settings.stepLimit .null 2 ∧
      Limit.Taken session .output Settings.outputLimit .null 1 ∧
      (∃ trial, run idle (.bytes []) .null .null session = (.ok trial,session) ∧
        trial.output = none ∧ trial.fault = some (.stepLimit 2)) ∧
      answer echo (-1) .null session = (.ok (some 255),session) := by
  intro session idle echo
  have read : (Session.settings session).1 = .ok ⟨2,1,true,1⟩ := rfl
  have stepsAre : Limit.Taken session .steps Settings.stepLimit .null 2 := .left read
  have capIs : Limit.Taken session .output Settings.outputLimit .null 1 := .left read
  refine ⟨stepsAre,capIs,?_,?_⟩
  · obtain ⟨trial,made,reports⟩ := (run_reports stepsAre idle).1 .null 1 capIs (.bytes [])
    have stops : (evalBytes ⟨2,some 1⟩ Sink.silent () idle (.bytes [])).1 = .error (.fault (.stepLimit 2)) := by
      decide
    obtain ⟨-,noOutput,isFault,-⟩ := reports.failed _ stops
    exact ⟨trial,made,noOutput,isFault⟩
  · obtain ⟨byte,byteIs,trial,made,answered⟩ := (run_reports stepsAre echo).2 _ read (-1)
    have byteIs : byte.toNat = (255 : UInt8).toNat := by
      rw [show (255 : UInt8).toNat = 255 from rfl]
      omega
    obtain rfl := UInt8.toNat_inj.mp byteIs
    have tried := run_of_taken (.given rfl : Limit.Taken session .steps Settings.stepLimit (.int 2) 2)
      (.given rfl : Limit.Taken session .output Settings.outputLimit (.int 1) 1) echo (.bytes [255])
    have trialIs : ofLimits ⟨2,some 1⟩ echo (.bytes [255]) = ⟨some [255],2,1,none⟩ := by decide +kernel
    rw [trialIs] at tried
    cases made.symm.trans tried
    exact answered

end Trial

end TapeArena
