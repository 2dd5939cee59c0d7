import TapeArena.Exercise
import TapeArena.Text.Lines
import TapeArena.Yaml.Document

/-!
Files of exercises: a document whose value is a collection of exercises. A value may lie inside itself; it is looked at
as deep as exercises go, and names are told in full.
-/
namespace TapeArena.Exercise

/-- Why a file gives no exercises. -/
inductive FileError
  | missing
  | document (fault : Yaml.Fault)
  | empty (path : Text)
  | exercise (error : ExerciseError)
  deriving DecidableEq

/-- The words for a file that gives no exercises; how a file is missing or malformed is not told. -/
def FileError.message? : FileError → Option Text
  | .missing => none
  | .document fault => fault.message?
  | .empty path => some (lit "Tasks file is empty: " ++ path)
  | .exercise error => some error.message

/-- The number of levels on which exercises are looked for: from a collection over its list, an exercise, its
    examples, one of them and its output down to a number. -/
def levels : Nat := 6

/-- The exercises of a file, given its path and its content. -/
def ofFile (room : Nat → Nat) (path : Text) : Option Text → Except FileError (List Exercise)
  | none => .error .missing
  | some content =>
    match Yaml.read content.unifyLines with
    | .error fault => .error (.document fault)
    | .ok document =>
      let value := document.value nameKey levels
      if value.isNull then .error (.empty path) else (readAll room value).mapError .exercise

end TapeArena.Exercise
