import TapeArena.Datum
import TapeArena.Trial

/-!
Exercises: inputs with the outputs that a program should give. Collections of exercises are read from
loosely typed data in three shapes: a mapping with the list of exercises under `tasks`, that list itself,
or a mapping from names to lists of examples. Any value that is not nothing is a name if it can be written.
Writing goes down into a value only as far as the run has room for: `room` gives, for each exercise, the
number of levels that may lie below its name.
-/
namespace TapeArena

/-- An input and the output that is expected for it. -/
structure Example where
  input : Bytes
  expected : Bytes
  deriving DecidableEq

/-- A name and examples. -/
structure Exercise where
  name : Text
  examples : List Example
  deriving DecidableEq

/-- The output of a program on one input under the limits of the settings; none if the program fails. -/
def Exercise.run (program : Source) (input : Bytes) : Session.Action SettingError (Option Bytes) := do
  return (← Trial.standard program (.bytes input)).output

/-- Why data is no collection of exercises. -/
inductive ExerciseError
  | notCollection
  | notMapping
  | noName
  | unwritable (obstacle : Datum.Obstacle)
  | noExamples (name : Text)
  | noOutput
  | notExample
  | beyondLatin (text : Text)
  | notWhole
  | notBytes (typeName : Text)
  deriving DecidableEq

def ExerciseError.message : ExerciseError → Text
  | .notCollection => lit "Unsupported tasks structure; expected dict or list"
  | .notMapping => lit "Each task must be a mapping"
  | .noName => lit "Each task must have 'name'"
  | .unwritable obstacle => obstacle.message
  | .noExamples name => lit "Task '" ++ name ++ lit "' must have a non-empty 'examples' list"
  | .noOutput => lit "Each example must have 'output'"
  | .notExample => lit "example must be \x7binput, output\x7d or an [input, output] pair"
  | .beyondLatin text => lit "string " ++ Text.quoted text ++ lit " has characters outside latin-1"
  | .notWhole => lit "byte list elements must be integers"
  | .notBytes typeName => lit "expected a string or a list of integers, got " ++ typeName

/-- A name that is nested too deep is a failure of the run; all else is wrong with the value. -/
def ExerciseError.category : ExerciseError → Fault.Category
  | .unwritable .tooDeep => .runtime
  | _ => .value

namespace Exercise

/-- The name under which a collection holds its list. -/
def tasksKey : Text := lit "tasks"
def nameKey : Text := lit "name"
def examplesKey : Text := lit "examples"
def inputKey : Text := lit "input"
def outputKey : Text := lit "output"

/-- The byte that a whole number stands for, modulo 256. -/
def readByte : Datum → Except ExerciseError UInt8
  | .int value => .ok (UInt8.ofNat (value % 256).toNat)
  | _ => .error .notWhole
/-- The bytes that a value stands for: a text up to U+00FF, a sequence of whole numbers, or nothing. -/
def readBytes : Datum → Except ExerciseError Bytes
  | .null => .ok []
  | .text text =>
    match text.latin? with
    | some bytes => .ok bytes
    | none => .error (.beyondLatin text)
  | .list items | .tuple items => items.mapM readByte
  | other => .error (.notBytes other.typeName)
/-- An input and an output, read in this order. -/
def readPair (input output : Datum) : Except ExerciseError Example := do
  let input ← readBytes input
  let expected ← readBytes output
  return ⟨input,expected⟩
/-- An example: a mapping with an output, or a pair. -/
def readExample : Datum → Except ExerciseError Example
  | .dict fields =>
    match Datum.field? fields outputKey with
    | some output => readPair ((Datum.field? fields inputKey).getD .null) output
    | none => .error .noOutput
  | .list [input,output] | .tuple [input,output] => readPair input output
  | _ => .error .notExample
/-- The name that a value stands for. -/
def readName (room : Nat) (name : Datum) : Except ExerciseError Text :=
  if name.isNothing then .error .noName
  else
    match name.obstacle? room with
    | some obstacle => .error (.unwritable obstacle)
    | none => .ok name.name
/-- An exercise with a name and examples that were found; the name is read first. -/
def readParts (room : Nat) (name examples : Datum) : Except ExerciseError Exercise := do
  let name ← readName room name
  match examples with
  | .list (first :: more) => return ⟨name,← (first :: more).mapM readExample⟩
  | _ => throw (.noExamples name)
/-- An exercise of a list. -/
def readItem (room : Nat) : Datum → Except ExerciseError Exercise
  | .dict fields =>
    readParts room ((Datum.field? fields nameKey).getD .null) ((Datum.field? fields examplesKey).getD .null)
  | _ => .error .notMapping
/-- The list under `tasks`, if there is one. -/
def tasks? (fields : List (Datum × Datum)) : Option (List Datum) :=
  match Datum.field? fields tasksKey with
  | some (.list items) => some items
  | _ => none
/-- Reads exercises in order; each has its own room. -/
def readEach {α : Type} (room : Nat → Nat) (read : Nat → α → Except ExerciseError Exercise) (items : List α) :
    Except ExerciseError (List Exercise) :=
  items.zipIdx.mapM fun (item,i) => read (room i) item
/-- Reads a collection of exercises in order. -/
def readAll (room : Nat → Nat) : Datum → Except ExerciseError (List Exercise)
  | .list items => readEach room readItem items
  | .dict fields =>
    match tasks? fields with
    | some items => readEach room readItem items
    | none => readEach room (fun room (name,examples) => readParts room name examples) fields
  | _ => .error .notCollection

end Exercise

end TapeArena
