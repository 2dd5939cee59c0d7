import TapeArena.Exercise
import TapeArena.Score.Scalar

/-!
Scores of programs. The exact score is the share of examples that a program reproduces; the close score
takes off the mean error, in which bytes are compared around the circle of 256; the penalised score takes
off a share that grows with the length of the program.
-/
namespace TapeArena.Score
open Scalar
variable {α : Type} [Scalar α]

/-! ### Errors of one example -/

/-- The distance of two bytes around the circle. -/
def circular (a b : UInt8) : Nat :=
  let apart := (max a.toNat b.toNat) - (min a.toNat b.toNat)
  min apart (256 - apart)
/-- The full error of one byte, in units of the distance. -/
def fullError : Nat := 128
/-- The error of an output in units of the distance: the distances of the bytes that have a partner, and
    the full error for each byte that is missing or too many. -/
def units : Bytes → Bytes → Nat
  | [], expected => fullError * expected.length
  | actual, [] => fullError * actual.length
  | a :: actual, e :: expected => circular a e + units actual expected
/-- The error of one example, from zero to one. A program without output has the full error. -/
def error (actual : Option Bytes) (expected : Bytes) : α :=
  match actual with
  | none => one
  | some actual =>
    if expected.isEmpty then if actual.isEmpty then zero else one
    else
      let share : α := ofNat (units actual expected) / ofNat fullError / ofNat expected.length
      if less share one then share else one

/-! ### Scores under given settings -/

def output (settings : Settings) (program : Source) (input : Bytes) : Option Bytes :=
  (Trial.ofLimits ⟨settings.stepLimit,some settings.outputLimit⟩ program (.bytes input)).output
/-- The number of examples that a program reproduces. -/
def hits (settings : Settings) (exercise : Exercise) (program : Source) : Nat :=
  exercise.examples.countP fun e => output settings program e.input = some e.expected
/-- The share of examples that a program reproduces. -/
def exactUnder (settings : Settings) (exercise : Exercise) (program : Source) : α :=
  ofNat (hits settings exercise program) / ofNat exercise.examples.length
/-- One less the mean error. -/
def closeUnder (settings : Settings) (exercise : Exercise) (program : Source) : α :=
  one - mean (exercise.examples.map fun e => error (output settings program e.input) e.expected)

/-! ### Penalties -/

/-- The length at which half of the penalty is reached. -/
def halfLength : Nat := 32
/-- The penalty for a length: a share of `alpha` that grows with the length and stays below `alpha`; an
    `alpha` that is not positive gives none. -/
def penalty (alpha : α) (length : Nat) : α :=
  if atMost alpha zero then zero
  else alpha * (ofNat length / (ofNat length + ofNat halfLength))
def defaultAlpha : α := ofNat 5 / ofNat 100
/-- A score less its penalty; nothing is left below zero. -/
def penalised (alpha base : α) (length : Nat) : α :=
  if atMost alpha zero then base
  else
    let left := base - penalty alpha length
    if less zero left then left else zero

/-! ### Scores in a session -/

/-- A score that is zero without examples; only with examples are the settings read. -/
def inSession (score : Settings → Exercise → Source → α) (exercise : Exercise) (program : Source) :
    Session.Action SettingError α := do
  if exercise.examples.isEmpty then return zero
  else return score (← Session.settings) exercise program
def exact (exercise : Exercise) (program : Source) : Session.Action SettingError α :=
  inSession exactUnder exercise program
def close (exercise : Exercise) (program : Source) : Session.Action SettingError α :=
  inSession closeUnder exercise program
/-- The exact score less the penalty for the length of the program. -/
def exactPenalised (alpha : α) (exercise : Exercise) (program : Source) : Session.Action SettingError α := do
  return penalised alpha (← exact exercise program) program.length
/-- The score that populations are ranked by: the exact score less the penalty, of the default strength unless
    another one is given. -/
def ranking (alpha : Option α) (exercise : Exercise) (program : Source) : Session.Action SettingError α :=
  exactPenalised (alpha.getD defaultAlpha) exercise program

end TapeArena.Score
