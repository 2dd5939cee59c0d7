import TapeArena.Limit
import TapeArena.Session

/-!
Trials of programs: a run under the limits that are given or else under those of the settings. A program
that fails gives a trial without output and with the words for its fault; only limits and settings that
cannot be read make the trial itself fail.
-/
namespace TapeArena

/-- What came of a trial. Steps and reads are those of the run, also when it failed. -/
structure Trial where
  output : Option Bytes
  steps : Nat
  reads : Nat
  fault : Option Fault
  deriving DecidableEq

/-- Why a trial cannot be made: settings that cannot be read, or a limit that is none. -/
inductive ConfigError
  | setting (error : SettingError)
  | limit (error : LimitError)

def ConfigError.message : ConfigError → Text
  | .setting error => error.message
  | .limit error => error.message

namespace Trial

/-- The program ended on its own. -/
def ok (trial : Trial) : Bool := trial.fault.isNone

/-- The trial of a program under given limits. -/
def ofLimits (limits : Limits) (program input : Source) : Trial :=
  let machine := Machine.new Machine.defaultSize limits
  let (result,machine,_) := machine.run Sink.silent () program.program input.feed
  let made := fun output fault =>
    ({ output, steps := machine.state.steps, reads := machine.state.store.reads, fault } : Trial)
  match result with
  | .ok bytes => made (some bytes) none
  | .error (.fault fault) => made none (some fault)
  | .error (.refused reason) => nomatch reason

/-- The trial of a program under the limits of the settings. -/
def standard (program input : Source) : Session.Action SettingError Trial := do
  let settings ← Session.settings
  return ofLimits ⟨settings.stepLimit,some settings.outputLimit⟩ program input

/-- A limit that is given, or else that of the settings. -/
def limitOr (limit : Limit) (setting : Settings → Nat) : Datum → Session.Action ConfigError Nat
  | .null => return setting (← Session.settings.adapt ConfigError.setting)
  | value =>
    match limit.read value with
    | .ok n => return n
    | .error error => throw (.limit error)

/-- The trial of a program. The settings are read first, and only if a limit is left out. -/
def run (program input : Source) (steps output : Datum) : Session.Action ConfigError Trial := do
  if steps.isNull || output.isNull then
    discard <| Session.settings.adapt ConfigError.setting
  let steps ← limitOr .steps Settings.stepLimit steps
  let output ← limitOr .output Settings.outputLimit output
  return ofLimits ⟨steps,some output⟩ program input

/-- The byte that a program answers to one byte; `x` is taken modulo 256, and a program that fails or
    writes nothing gives no answer. -/
def answer (program : Source) (x : Int) (steps : Datum) : Session.Action ConfigError (Option UInt8) := do
  let trial ← run program (.bytes [UInt8.ofNat (x % 256).toNat]) steps .null
  return trial.output.bind List.head?

end Trial

end TapeArena
