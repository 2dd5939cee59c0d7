import TapeArena.Calendar
import TapeArena.Decimal.Reading
import TapeArena.Text.Quoted

/-!
Why a document has no value. It is malformed, or it is well formed and something in it has the form of a
number, a day, a moment or a character that there is not.
-/
namespace TapeArena.Yaml

/-- A reason why a document has no value. -/
inductive Fault
  | malformed
  | notWhole (base : Nat) (text : Text)
  | tooManyDigits (count : Nat)
  | notFraction (text : Text)
  | calendar (error : CalendarError)
  | noCharacter
  deriving DecidableEq

/-- The most characters that are told of a text in quotes that is no whole number. -/
def Fault.longestExcerpt : Nat := 200
/-- The words for a fault; how a document is malformed is not told. -/
def Fault.message? : Fault → Option Text
  | .malformed => none
  | .notWhole base text =>
    some (lit "invalid literal for int() with base " ++ Text.ofNat base ++ lit ": " ++
      (Text.quoted text).take longestExcerpt)
  | .tooManyDigits count => some (Decimal.tooManyDigits (some count))
  | .notFraction text => some (lit "could not convert string to float: " ++ Text.quoted text)
  | .calendar error => some error.message
  | .noCharacter => some (lit "chr() arg not in range(0x110000)")

/-- A step of a reader. -/
abbrev Read (α : Type) := Except Fault α

/-- A step that fails only on a malformed document. -/
def Read.ofOption {α : Type} : Option α → Read α
  | some a => .ok a
  | none => .error .malformed

end TapeArena.Yaml
