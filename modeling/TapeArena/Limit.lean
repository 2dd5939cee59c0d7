import TapeArena.Datum
import TapeArena.Machine

/-!
Limits as they are handed over. A limit is a whole number that is not negative; a truth value is no
number. The ring needs at least one cell.
-/
namespace TapeArena

/-- The numbers that a machine is made with. -/
inductive Limit
  | size
  | steps
  | output
  deriving DecidableEq

def Limit.name : Limit → Text
  | .size => lit "memory_size"
  | .steps => lit "max_steps"
  | .output => lit "max_output"

/-- Why a machine cannot be made. -/
inductive LimitError
  | notPositive (limit : Limit) (value : Datum)
  | notWhole (limit : Limit) (value : Datum)
  | negative (limit : Limit) (value : Int)

def LimitError.message : LimitError → Text
  | .notPositive limit value => limit.name ++ lit " must be positive, got " ++ value.name
  | .notWhole limit value => limit.name ++ lit " must be an integer, got " ++ value.write
  | .negative limit value => limit.name ++ lit " must be non-negative, got " ++ Text.ofInt value

namespace Limit

/-- The value of a limit on steps or output. -/
def read (limit : Limit) (value : Datum) : Except LimitError Nat :=
  match value.whole? with
  | none => .error (.notWhole limit value)
  | some (.ofNat n) => .ok n
  | some (.negSucc n) => .error (.negative limit (.negSucc n))
/-- The value of a limit that may be left out. -/
def readOptional (limit : Limit) : Datum → Except LimitError (Option Nat)
  | .null => .ok none
  | value => (limit.read value).map some
/-- A number is one at least, or is no number at all. -/
def isPositive : Datum → Bool
  | .bool value => value
  | .int value | .word value => 1 ≤ value
  | .float value => !(value < 1.0)
  | _ => false
/-- The number of cells that a positive number stands for. -/
def readSize : Datum → Except LimitError Nat
  | .bool _ => .ok 1
  | .int (.ofNat n) | .word (.ofNat n) => .ok n
  | value => .error (.notWhole .size value)

end Limit

/-- The limits of a machine; the steps are checked before the output. -/
def Limits.read (steps output : Datum) : Except LimitError Limits := do
  let steps ← Limit.steps.read steps
  let output ← Limit.output.readOptional output
  return ⟨steps,output⟩

/-- A machine of a size and limits. The size has to be positive; then the limits are checked, and a size that is
    no whole number is refused last. -/
def Machine.make (size steps output : Datum) : Except LimitError Machine := do
  if !Limit.isPositive size then throw (.notPositive .size size)
  let limits ← Limits.read steps output
  let size ← Limit.readSize size
  return .new size limits

end TapeArena
