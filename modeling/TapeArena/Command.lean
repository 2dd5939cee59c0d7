import TapeArena.Text.Basic

/-!
The instruction set. Every character of a program is one instruction: eight characters are commands,
every other one is a comment, which keeps its position and costs a step.
-/
namespace TapeArena

/-- What one position of a program does. -/
inductive Command
  | right
  | left
  | increment
  | decrement
  | output
  | input
  | loopOpen
  | loopClose
  | comment
  deriving DecidableEq, Repr, Inhabited

/-- A program, one command for each position. -/
abbrev Program := List Command

/-- The command that a character stands for. -/
def Command.ofCodePoint (c : CodePoint) : Command :=
  match c.val with
  | 62 => .right
  | 60 => .left
  | 43 => .increment
  | 45 => .decrement
  | 46 => .output
  | 44 => .input
  | 91 => .loopOpen
  | 93 => .loopClose
  | _ => .comment

/-- Reads every character of a text as a command. -/
def Program.ofText (text : Text) : Program := text.map Command.ofCodePoint

/-- The commands of a program, its comments left out. -/
def Program.strip (program : Program) : Program := program.filter (· ≠ .comment)

end TapeArena
