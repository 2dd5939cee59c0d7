import TapeArena.Decimal.Reading
import TapeArena.Environment
import TapeArena.Machine
import TapeArena.Text.Quoted

/-!
Settings of the evaluation layer, read from four variables. A variable that is not set or blank gives the
default; the first variable with a value that cannot be read, in the order of `Variable`, is reported.
-/
namespace TapeArena

/-- The limits of a run that is given none, and how populations are evaluated. -/
structure Settings where
  stepLimit : Nat
  outputLimit : Nat
  parallel : Bool
  processes : Nat
  deriving DecidableEq

/-- The variables that settings are read from. -/
inductive Variable
  | stepLimit
  | outputLimit
  | parallel
  | processes
  deriving DecidableEq

def Variable.name : Variable → Text
  | .stepLimit => lit "BF_STEP_LIMIT"
  | .outputLimit => lit "BF_OUTPUT_LIMIT"
  | .parallel => lit "BF_EVAL_PARALLEL"
  | .processes => lit "BF_EVAL_PROCESSES"

/-- A variable whose value cannot be read, or one of a file that cannot be set. -/
inductive SettingError
  | refused (error : VariableError)
  | notWhole (source : Variable) (raw : Text)
  | negative (source : Variable) (value : Int)
  | notFlag (source : Variable) (raw : Text)
  deriving DecidableEq

def SettingError.message : SettingError → Text
  | .refused error => error.message
  | .notWhole v raw => v.name ++ lit " must be an integer, got " ++ Text.quoted raw
  | .negative v value => v.name ++ lit " must be non-negative, got " ++ Text.ofInt value
  | .notFlag v raw => v.name ++ lit " must be a boolean flag, got " ++ Text.quoted raw

namespace Settings

/-- The settings without any variable on a machine with some processors; one of them is left to the caller. -/
def default (processors : Nat) : Settings :=
  { stepLimit := Machine.defaultSteps, outputLimit := Machine.defaultOutput, parallel := true,
    processes := max 1 (processors - 1) }

/-- The value of a variable, unless it is not set or blank. -/
def raw? (environment : Environment) (v : Variable) : Option Text :=
  (environment.get? v.name).filter fun raw => !raw.strip.isEmpty

/-- The number that a variable gives. -/
def readNat (environment : Environment) (v : Variable) (otherwise : Nat) :
    Except SettingError Nat :=
  match raw? environment v with
  | none => .ok otherwise
  | some raw =>
    match Decimal.int? raw with
    | none => .error (.notWhole v raw)
    | some (.ofNat n) => .ok n
    | some (.negSucc n) => .error (.negative v (.negSucc n))

def affirmative : List Text := [lit "1",lit "true",lit "yes",lit "on"]
def negative : List Text := [lit "0",lit "false",lit "no",lit "off"]

/-- The flag that a variable gives, whatever the case of its letters. -/
def readFlag (environment : Environment) (v : Variable) (otherwise : Bool) :
    Except SettingError Bool :=
  match raw? environment v with
  | none => .ok otherwise
  | some raw =>
    let word := raw.strip.map CodePoint.lower
    if affirmative.contains word then .ok true
    else if negative.contains word then .ok false
    else .error (.notFlag v raw)

/-- Reads the settings on a machine with some processors; there is at least one process. -/
def read (processors : Nat) (environment : Environment) : Except SettingError Settings := do
  let stepLimit ← readNat environment .stepLimit (default processors).stepLimit
  let outputLimit ← readNat environment .outputLimit (default processors).outputLimit
  let parallel ← readFlag environment .parallel (default processors).parallel
  let processes ← readNat environment .processes (default processors).processes
  return { stepLimit, outputLimit, parallel, processes := max 1 processes }

end Settings

end TapeArena
