import TapeArena.Jumps

/-!
Why an evaluation fails, with the words for it. Every fault belongs to several categories, from the
general to the special: a bracket fault is also a fault of syntax, a limit that was exceeded is also a
fault that shows only at run time.
-/
namespace TapeArena

/-- A failure of one evaluation. `bracket` is one whose kind of bracket is not told, `resource` a limit
    of another sort with words of its own, and `general` any other failure. A failure may be reported with any
    whole number; those of evaluations name natural ones. -/
inductive Fault
  | general (words : Text)
  | bracket (position : Int)
  | unmatchedOpen (position : Int)
  | unmatchedClose (position : Int)
  | resource (limit : Int) (words : Text)
  | stepLimit (limit : Int)
  | outputLimit (limit : Int)
  deriving DecidableEq

namespace Fault

/-- The fault of a program that has no jump table. -/
def ofBracket : BracketFault → Fault
  | .unmatchedOpen position => .unmatchedOpen (.ofNat position)
  | .unmatchedClose position => .unmatchedClose (.ofNat position)

/-- How a bracket without a partner is reported. -/
def unmatched (symbol : String) (position : Int) : Text :=
  lit "Unmatched '" ++ lit symbol ++ lit "' at position " ++ Text.ofInt position

def message : Fault → Text
  | .general words => words
  | .bracket position => unmatched "?" position
  | .unmatchedOpen position => unmatched "[" position
  | .unmatchedClose position => unmatched "]" position
  | .resource _ words => words
  | .stepLimit limit => lit "Exceeded maximum step limit of " ++ Text.ofInt limit
  | .outputLimit limit => lit "Exceeded maximum output limit of " ++ Text.ofInt limit ++ lit " bytes"

def position? : Fault → Option Int
  | .bracket position | .unmatchedOpen position | .unmatchedClose position => some position
  | _ => none
def limit? : Fault → Option Int
  | .resource limit _ | .stepLimit limit | .outputLimit limit => some limit
  | _ => none

/-- The categories of failures; `runtime` are those that show only in a run, `value` those of an
    argument, to which no fault of an evaluation belongs. -/
inductive Category
  | evaluation
  | bracket
  | unmatchedOpen
  | unmatchedClose
  | resource
  | stepLimit
  | outputLimit
  | grammar
  | runtime
  | value
  deriving DecidableEq

/-- The categories that a fault belongs to, in the order of `Category`. -/
def categories : Fault → List Category
  | .general _ => [.evaluation]
  | .bracket _ => [.evaluation,.bracket,.grammar]
  | .unmatchedOpen _ => [.evaluation,.bracket,.unmatchedOpen,.grammar]
  | .unmatchedClose _ => [.evaluation,.bracket,.unmatchedClose,.grammar]
  | .resource _ _ => [.evaluation,.resource,.runtime]
  | .stepLimit _ => [.evaluation,.resource,.stepLimit,.runtime]
  | .outputLimit _ => [.evaluation,.resource,.outputLimit,.runtime]

/-- The most special category of a fault. -/
def category : Fault → Category
  | .general _ => .evaluation
  | .bracket _ => .bracket
  | .unmatchedOpen _ => .unmatchedOpen
  | .unmatchedClose _ => .unmatchedClose
  | .resource _ _ => .resource
  | .stepLimit _ => .stepLimit
  | .outputLimit _ => .outputLimit

end Fault

end TapeArena
