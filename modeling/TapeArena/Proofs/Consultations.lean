import TapeArena.Proofs.Atomicity
import TapeArena.Proofs.Trials
import TapeArena.Score

/-!
Calls that take the settings of a session. Such a call reads them once, through the cache, and gives what they
determine; beyond that it leaves the session alone (`Call.perform_consulting`). A call that is given all it needs, both
limits or an exercise without examples, does not even look at the session (`Call.perform_other`).
-/
namespace TapeArena

/-! ### Consulting the settings -/

namespace Session
variable {ρ ε α β : Type} {session : Session}

/-- Takes the settings of the session and gives what they determine, or else what tells why they cannot be read. -/
def consult (under : Settings → ρ) (refused : SettingError → ρ) (session : Session) : ρ × Session :=
  match Session.settings session with
  | (.ok settings,after) => (under settings,after)
  | (.error error,after) => (refused error,after)

theorem consult_of_cached {settings : Settings} (under : Settings → ρ) (refused : SettingError → ρ)
    (cached : session.cached = some settings) : consult under refused session = (under settings,session) := by
  rw [consult,settings_of_cached cached]

/-- A computation that begins with the settings and then leaves the session alone consults them. -/
theorem bind_settings {next : Settings → Action SettingError α} {under : Settings → Except SettingError α}
    (leaves : ∀ settings after, after.cached = some settings → next settings after = (under settings,after)) :
    (Session.settings >>= next) session = consult under .error session := by
  rw [consult]
  rcases read : Session.settings session with ⟨result,after⟩
  cases result with
  | ok settings => exact (TapeArena.Action.bind_of_ok read).trans (leaves settings after (cached_of_settings read))
  | error error => exact TapeArena.Action.bind_of_error read

/-- What is made of the outcome of a consultation can be made of it at once. -/
theorem map_consult {action : Action ε α} {under : Settings → Except ε α} {refused : SettingError → ε} (f : α → β)
    (consults : action session = consult under (fun error => .error (refused error)) session) :
    (do return f (← action) : Action ε β) session =
      consult (fun settings => (under settings).map f) (fun error => .error (refused error)) session := by
  rw [consult] at consults ⊢
  rcases read : Session.settings session with ⟨result,after⟩
  simp only [read] at consults
  cases result with
  | ok settings => exact TapeArena.Action.bind_of_steady consults fun a => rfl
  | error error => exact TapeArena.Action.bind_of_error consults

/-- Computations on the elements of a list that all consult the settings read them once. -/
theorem mapM_consult {items : List β} (nonempty : items ≠ []) {each : β → Action SettingError α}
    {f : β → Settings → α} (consults : ∀ b session, each b session = consult (fun s => .ok (f b s)) .error session) :
    items.mapM each session = consult (fun settings => .ok (items.map (f · settings))) .error session := by
  -- the first element reads the settings, the others find them kept
  cases items with
  | nil => exact absurd rfl nonempty
  | cons first rest =>
    have begins := consults first session
    rw [List.mapM_cons]
    rw [consult] at begins ⊢
    rcases read : Session.settings session with ⟨result,after⟩
    simp only [read] at begins
    cases result with
    | error error => exact TapeArena.Action.bind_of_error begins
    | ok settings =>
      have others : rest.mapM each after = (rest.mapM fun b => pure (f b settings),after) :=
        TapeArena.Action.mapM_of_steady fun b =>
          (consults b after).trans (consult_of_cached _ _ (cached_of_settings read))
      rw [List.mapM_pure] at others
      exact (TapeArena.Action.bind_of_ok begins).trans (TapeArena.Action.bind_of_ok others)

end Session

/-! ### Trials -/

/-- The value of a limit, given or else that of the settings. -/
def Limit.under (limit : Limit) (setting : Nat) : Datum → Except LimitError Nat
  | .null => .ok setting
  | value => limit.read value

namespace Trial
variable {session : Session} {settings : Settings} {steps output : Datum}

/-- The trial that settings determine. -/
def under (program input : Source) (steps output : Datum) (settings : Settings) : Except ConfigError Trial := do
  let steps ← (Limit.steps.under settings.stepLimit steps).mapError .limit
  let output ← (Limit.output.under settings.outputLimit output).mapError .limit
  return ofLimits ⟨steps,some output⟩ program input

/-- A limit that is given is not taken from the settings. -/
theorem limitOr_eq {value : Datum} (limit : Limit) (setting : Settings → Nat)
    (known : value.isNull → session.cached = some settings) :
    limitOr limit setting value session = ((limit.under (setting settings) value).mapError .limit,session) := by
  cases value with
  | null => exact limitOr_null (known rfl)
  | _ =>
    simp only [limitOr,Limit.under]
    cases limit.read _ <;> rfl

/-- Once the settings are known as far as they are needed, a trial is what they determine. -/
theorem limits_eq (program input : Source) (known : steps.isNull || output.isNull → session.cached = some settings) :
    (do
      let steps ← limitOr .steps Settings.stepLimit steps
      let output ← limitOr .output Settings.outputLimit output
      return ofLimits ⟨steps,some output⟩ program input : Session.Action ConfigError Trial) session =
      (under program input steps output settings,session) := by
  have takesSteps := limitOr_eq .steps Settings.stepLimit fun isNull : steps.isNull =>
    known (Bool.or_eq_true_iff.mpr (.inl isNull))
  have takesOutput := limitOr_eq .output Settings.outputLimit fun isNull : output.isNull =>
    known (Bool.or_eq_true_iff.mpr (.inr isNull))
  exact Action.bind_of_steady takesSteps fun n => Action.bind_of_steady takesOutput fun cap => rfl

/-- A trial without one of its limits consults the settings. -/
theorem run_consulting (program input : Source) (left : steps.isNull || output.isNull) :
    run program input steps output session =
      session.consult (under program input steps output) fun error => .error (.setting error) := by
  rw [run,if_pos left,Session.consult]
  rcases read : Session.settings session with ⟨result,after⟩
  cases result with
  | ok settings =>
    have discarded := Action.adapt_of_ok ConfigError.setting read
    refine (Action.bind_of_ok ((Action.bind_of_ok discarded).trans rfl)).trans ?_
    exact limits_eq program input fun _ => Session.cached_of_settings read
  | error error =>
    have unread := Action.adapt_of_error ConfigError.setting read
    exact Action.bind_of_error (Action.bind_of_error unread)

theorem run_given (program input : Source) (given : ¬ (steps.isNull || output.isNull)) (settings : Settings) :
    run program input steps output session = (under program input steps output settings,session) := by
  rw [run,if_neg given]
  exact limits_eq program input fun left => absurd left given

theorem answer_consulting (program : Source) (x : Int) (steps : Datum) :
    answer program x steps session =
      session.consult (fun settings => (under program (.bytes [UInt8.ofNat (x % 256).toNat]) steps .null settings).map
        fun trial => trial.output.bind List.head?) fun error => .error (.setting error) :=
  Session.map_consult _ (run_consulting program _ (Bool.or_true steps.isNull))

end Trial

/-! ### Scores -/

namespace Score
open Scalar
variable {α : Type} [Scalar α] {session : Session} {score : Settings → Exercise → Source → α} {exercise : Exercise}

/-- A score that settings determine; it is zero without examples. -/
def under (score : Settings → Exercise → Source → α) (exercise : Exercise) (program : Source)
    (settings : Settings) : α :=
  if exercise.examples.isEmpty then zero else score settings exercise program
/-- The penalised score that settings determine. -/
def penalisedUnder (alpha : α) (exercise : Exercise) (program : Source) (settings : Settings) : α :=
  penalised alpha (under exactUnder exercise program settings) program.length

/-- A score of an exercise with examples consults the settings. -/
theorem inSession_consulting (examples : ¬ exercise.examples.isEmpty) (program : Source) :
    inSession score exercise program session =
      session.consult (fun settings => .ok (under score exercise program settings)) .error := by
  simp only [inSession,under,if_neg examples]
  exact Session.bind_settings fun _ _ _ => rfl
theorem inSession_empty (empty : exercise.examples.isEmpty) (program : Source) (settings : Settings) :
    inSession score exercise program session = (.ok (under score exercise program settings),session) := by
  rw [inSession,under,if_pos empty,if_pos empty]
  rfl

theorem exactPenalised_consulting (alpha : α) (examples : ¬ exercise.examples.isEmpty) (program : Source) :
    exactPenalised alpha exercise program session =
      session.consult (fun settings => .ok (penalisedUnder alpha exercise program settings)) .error :=
  Session.map_consult (fun base => penalised alpha base program.length) (inSession_consulting examples program)
theorem exactPenalised_empty (alpha : α) (empty : exercise.examples.isEmpty) (program : Source) (settings : Settings) :
    exactPenalised alpha exercise program session = (.ok (penalisedUnder alpha exercise program settings),session) :=
  Action.bind_of_steady (inSession_empty empty program settings) fun _ => rfl

theorem run_consulting (program : Source) (input : Bytes) :
    Exercise.run program input session =
      session.consult (fun settings => .ok (output settings program input)) .error :=
  Session.map_consult Trial.output (Session.bind_settings fun _ _ _ => rfl)

section
variable (examples : ¬ exercise.examples.isEmpty) (program : Source)
include examples

theorem mapM_trials {β : Type} (session : Session) (f : Option Bytes → Example → β) :
    (exercise.examples.mapM fun e => do
      return f (← Exercise.run program e.input) e : Session.Action _ (List β)) session =
      session.consult (fun settings => .ok (exercise.examples.map fun e => f (output settings program e.input) e))
        .error :=
  Session.mapM_consult (fun isNil => examples (List.isEmpty_iff.mpr isNil)) fun e _ =>
    Session.map_consult (f · e) (run_consulting program e.input)

/-- The exact score may as well be counted by trials of all examples, each of which consults the settings. -/
theorem exact_eq_trials : exact exercise program session = (do
    let reproduced ← exercise.examples.mapM fun e =>
      do return decide ((← Exercise.run program e.input) = some e.expected)
    return ofNat (reproduced.countP id) / ofNat exercise.examples.length : Session.Action SettingError α) session := by
  refine (inSession_consulting examples program).trans ?_
  have counted := Session.map_consult (fun reproduced : List Bool =>
    (ofNat (reproduced.countP id) / ofNat exercise.examples.length : α))
    (mapM_trials examples program session fun y e => decide (y = some e.expected))
  refine Eq.trans ?_ counted.symm
  simp only [under,if_neg examples,exactUnder,hits,Except.map,List.countP_map]
  rfl

/-- The close score may as well be computed from trials of all examples. -/
theorem close_eq_trials : close exercise program session = (do
    let errors ← exercise.examples.mapM fun e => do return error (← Exercise.run program e.input) e.expected
    return one - mean errors : Session.Action SettingError α) session := by
  refine (inSession_consulting examples program).trans ?_
  simp only [under,if_neg examples]
  exact (Session.map_consult (fun errors : List α => one - mean errors)
    (mapM_trials examples program session fun y e => error y e.expected)).symm

end

end Score

/-! ### Populations -/

namespace Population
variable {π σ ε S : Type} [DecidableEq π]

/-- A scorer that leaves alone what is shared may as well share nothing. -/
theorem evaluate_of_steady (config : EvalConfig) {scorer : Scorer S ε π σ} {score : π → Except ε σ} {shared : S}
    (steady : ∀ p, scorer p shared = (score p,shared)) (programs : List π) (cache : Cache π σ) :
    let alone := evaluate (pure config) (fun p nothing => (score p,nothing) : Scorer Unit ε π σ) programs ⟨cache,()⟩
    evaluate (pure config) scorer programs ⟨cache,shared⟩ = (alone.1,⟨alone.2.cache,shared⟩) := by
  intro alone
  have scoring : serially scorer (fresh cache programs) shared = _ := Action.mapM_of_steady steady
  have scoringAlone : serially (fun p nothing => (score p,nothing) : Scorer Unit ε π σ) (fresh cache programs) () = _ :=
    Action.mapM_of_steady fun p => rfl
  cases found : (fresh cache programs).mapM score with
  | ok scores =>
    rw [found] at scoring scoringAlone
    have aloneIs : alone = _ := evaluate_of_serially config scoringAlone
    rw [evaluate_of_serially config scoring,aloneIs,ite_self]
  | error error =>
    rw [found] at scoring scoringAlone
    have aloneIs : alone = _ := evaluate_of_serially config scoringAlone
    rw [evaluate_of_serially config scoring,aloneIs,ite_self]

/-- How the programs of a population are scored: without regard to the session, or by their rank on an exercise. -/
inductive Scoring (α φ : Type)
  | alone (score : Source → Except φ α)
  | ranking (alpha : Option α) (exercise : Exercise)

namespace Scoring
variable {α φ : Type} [Scalar α]

/-- The scorer in a session; a failure is that of the settings or one of its own. -/
def scorer : Scoring α φ → Scorer Session (SettingError ⊕ φ) Source α
  | .alone score => fun p session => ((score p).mapError .inr,session)
  | .ranking alpha exercise => fun p => (Score.ranking alpha exercise p).adapt .inl

/-- The score that settings determine. -/
def under (settings : Settings) : Scoring α φ → Source → Except (SettingError ⊕ φ) α
  | .alone score, p => (score p).mapError .inr
  | .ranking alpha exercise, p => .ok (Score.penalisedUnder (alpha.getD Score.defaultAlpha) exercise p settings)

theorem scorer_of_cached (scoring : Scoring α φ) {session : Session} {settings : Settings}
    (cached : session.cached = some settings) (p : Source) :
    scoring.scorer p session = (scoring.under settings p,session) := by
  cases scoring with
  | alone score => rfl
  | ranking alpha exercise =>
    apply Action.adapt_of_ok
    by_cases empty : exercise.examples.isEmpty
    · exact Score.exactPenalised_empty _ empty p settings
    · exact (Score.exactPenalised_consulting _ empty p).trans (Session.consult_of_cached _ _ cached)

/-- What settings determine for a population: its scores or the failure of a scorer, and the cache that is left. -/
def evaluateUnder (scoring : Scoring α φ) (settings : Settings) (programs : List Source) (cache : Cache Source α) :
    Except (SettingError ⊕ φ) (List (Source × α)) × Cache Source α :=
  let (result,held) := evaluate (pure (.ofSettings settings))
    (fun p nothing => (scoring.under settings p,nothing) : Scorer Unit _ Source α) programs ⟨cache,()⟩
  (result,held.cache)

/-- The evaluation of a population without a configuration consults the settings. -/
theorem evaluate_consulting (scoring : Scoring α φ) (programs : List Source) (cache : Cache Source α)
    (session : Session) :
    let outcome := evaluate (EvalConfig.ofSession.adapt .inl) scoring.scorer programs ⟨cache,session⟩
    ((outcome.1,outcome.2.cache),outcome.2.shared) =
      session.consult (scoring.evaluateUnder · programs cache) fun error => (.error (.inl error),cache) := by
  intro outcome
  rw [Session.consult]
  rcases read : Session.settings session with ⟨result,after⟩
  cases result with
  | ok settings =>
    have config : EvalConfig.ofSession session = (.ok (.ofSettings settings),after) :=
      (Action.bind_of_ok read).trans rfl
    have steady := evaluate_of_steady (.ofSettings settings)
      (scoring.scorer_of_cached (Session.cached_of_settings read)) programs cache
    have evaluated : outcome = _ :=
      (evaluate_of_configured (Action.adapt_of_ok Sum.inl config)).trans steady
    rw [evaluated]
    rfl
  | error error =>
    have noConfig : EvalConfig.ofSession session = (.error error,after) := Action.bind_of_error read
    have evaluated : outcome = _ := evaluate_of_unconfigured (Action.adapt_of_error Sum.inl noConfig)
    rw [evaluated]

end Scoring

end Population

/-! ### Calls -/

/-- The calls by which the settings of a session are used. -/
inductive Call (α φ : Type)
  | settings
  | config
  | trial (program input : Source) (steps cap : Datum)
  | answer (program : Source) (x : Int) (steps : Datum)
  | output (program : Source) (input : Bytes)
  | exact (exercise : Exercise) (program : Source)
  | close (exercise : Exercise) (program : Source)
  | penalised (alpha : α) (exercise : Exercise) (program : Source)
  | ranking (alpha : Option α) (exercise : Exercise) (program : Source)
  | population (scoring : Population.Scoring α φ) (programs : List Source) (cache : Population.Cache Source α)

namespace Call
variable {α φ : Type} [Scalar α]

/-- What a call gives; a population also gives the cache that it leaves. -/
def Reply : Call α φ → Type
  | .settings => Except SettingError Settings
  | .config => Except SettingError EvalConfig
  | .trial .. => Except ConfigError Trial
  | .answer .. => Except ConfigError (Option UInt8)
  | .output .. => Except SettingError (Option Bytes)
  | .exact .. | .close .. | .penalised .. | .ranking .. => Except SettingError α
  | .population .. => Except (SettingError ⊕ φ) (List (Source × α)) × Population.Cache Source α

def perform (session : Session) : (call : Call α φ) → call.Reply × Session
  | .settings => Session.settings session
  | .config => EvalConfig.ofSession session
  | .trial program input steps cap => Trial.run program input steps cap session
  | .answer program x steps => Trial.answer program x steps session
  | .output program input => Exercise.run program input session
  | .exact exercise program => Score.exact exercise program session
  | .close exercise program => Score.close exercise program session
  | .penalised alpha exercise program => Score.exactPenalised alpha exercise program session
  | .ranking alpha exercise program => Score.ranking alpha exercise program session
  | .population scoring programs cache =>
    let (result,held) :=
      Population.evaluate (EvalConfig.ofSession.adapt .inl) scoring.scorer programs ⟨cache,session⟩
    ((result,held.cache),held.shared)

/-- What settings determine for a call. -/
def under (settings : Settings) : (call : Call α φ) → call.Reply
  | .settings => .ok settings
  | .config => .ok (.ofSettings settings)
  | .trial program input steps cap => Trial.under program input steps cap settings
  | .answer program x steps =>
    (Trial.under program (.bytes [UInt8.ofNat (x % 256).toNat]) steps .null settings).map
      fun trial => trial.output.bind List.head?
  | .output program input => .ok (Score.output settings program input)
  | .exact exercise program => .ok (Score.under Score.exactUnder exercise program settings)
  | .close exercise program => .ok (Score.under Score.closeUnder exercise program settings)
  | .penalised alpha exercise program => .ok (Score.penalisedUnder alpha exercise program settings)
  | .ranking alpha exercise program =>
    .ok (Score.penalisedUnder (alpha.getD Score.defaultAlpha) exercise program settings)
  | .population scoring programs cache => scoring.evaluateUnder settings programs cache

/-- What a call gives if the settings that it needs cannot be read. -/
def refused (error : SettingError) : (call : Call α φ) → call.Reply
  | .settings | .config | .output .. | .exact .. | .close .. | .penalised .. | .ranking .. => .error error
  | .trial .. | .answer .. => .error (.setting error)
  | .population _ _ cache => (.error (.inl error),cache)

/-- A call needs the settings: it is a trial without one of its limits, a score of an exercise with examples, or any
    other call. -/
def needsSettings : Call α φ → Bool
  | .trial _ _ steps cap => steps.isNull || cap.isNull
  | .exact exercise _ | .close exercise _ | .penalised _ exercise _ | .ranking _ exercise _ => !exercise.examples.isEmpty
  | _ => true

/-- A call that needs the settings consults them. -/
theorem perform_consulting (call : Call α φ) (needs : call.needsSettings) (session : Session) :
    call.perform session = session.consult (call.under ·) (call.refused ·) := by
  have examples : ∀ {exercise : Exercise}, !exercise.examples.isEmpty → ¬ exercise.examples.isEmpty := by simp
  cases call with
  | settings =>
    rw [Session.consult]
    show Session.settings session = _
    rcases Session.settings session with ⟨result,after⟩
    cases result <;> rfl
  | config => exact Session.bind_settings fun _ _ _ => rfl
  | trial program input steps cap => exact Trial.run_consulting program input needs
  | answer program x steps => exact Trial.answer_consulting program x steps
  | output program input => exact Score.run_consulting program input
  | exact exercise program => exact Score.inSession_consulting (examples needs) program
  | close exercise program => exact Score.inSession_consulting (examples needs) program
  | penalised alpha exercise program => exact Score.exactPenalised_consulting alpha (examples needs) program
  | ranking alpha exercise program => exact Score.exactPenalised_consulting _ (examples needs) program
  | population scoring programs cache => exact scoring.evaluate_consulting programs cache session

/-- A call that does not need the settings takes nothing from the session and leaves it alone. -/
theorem perform_other (call : Call α φ) (needless : ¬ call.needsSettings) (session : Session) (settings : Settings) :
    call.perform session = (call.under settings,session) := by
  have empty : ∀ {exercise : Exercise}, ¬ !exercise.examples.isEmpty → exercise.examples.isEmpty := by simp
  cases call with
  | trial program input steps cap => exact Trial.run_given program input needless settings
  | exact exercise program => exact Score.inSession_empty (empty needless) program settings
  | close exercise program => exact Score.inSession_empty (empty needless) program settings
  | penalised alpha exercise program => exact Score.exactPenalised_empty alpha (empty needless) program settings
  | ranking alpha exercise program => exact Score.exactPenalised_empty _ (empty needless) program settings
  | _ => exact absurd rfl needless

end Call

end TapeArena
