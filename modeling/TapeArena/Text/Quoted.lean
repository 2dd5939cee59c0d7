import TapeArena.Text.Printable

/-!
Quoted text and quoted bytes, as messages show a value. Single quotes stand around it, or double quotes
if the value holds a single quote and no double one. The enclosing quote and the backslash are escaped,
and so is what cannot be shown.
-/
namespace TapeArena.Text

/-- The hexadecimal digits of a number in lower case, the last `width` of them. -/
def hex : Nat → Nat → Text
  | 0, _ => []
  | width + 1, n => hex width (n / 16) ++ [CodePoint.ofChar (Nat.digitChar (n % 16))]

namespace Quoted

/-- The quote that goes around a value. -/
def quote (value : Text) : Char :=
  if value.any (·.is '\'') && !value.any (·.is '"') then '"' else '\''

/-- Escapes that have a letter of their own, and those of the backslash and one quote. -/
def short? (escaped : Char) (c : CodePoint) : Option Text :=
  if c.is escaped ∨ c.is '\\' then some (lit "\\" ++ [c])
  else if c.is '\t' then some (lit "\\t")
  else if c.is '\n' then some (lit "\\n")
  else if c.is '\r' then some (lit "\\r")
  else none
/-- An escape by number, in the shortest of its three widths. -/
def numeric (c : CodePoint) : Text :=
  if c.val < 0x100 then lit "\\x" ++ hex 2 c.val
  else if c.val < 0x10000 then lit "\\u" ++ hex 4 c.val
  else lit "\\U" ++ hex 8 c.val
/-- A character between quotes; `shown` are those that stand for themselves. -/
def character (shown : CodePoint → Bool) (escaped : Char) (c : CodePoint) : Text :=
  match short? escaped c with
  | some escape => escape
  | none => if shown c then [c] else numeric c
/-- A value between its quotes, with one quote escaped in it. -/
def encode (shown : CodePoint → Bool) (escaped : Char) (value : Text) : Text :=
  .ofChar (quote value) :: (value.flatMap (character shown escaped) ++ [.ofChar (quote value)])
/-- The characters from the space to the tilde. -/
def isPlain (c : CodePoint) : Bool := 0x20 ≤ c.val && c.val < 0x7F

end Quoted

/-- A text in quotes; every character that can be shown stands for itself. -/
def quoted (value : Text) : Text := Quoted.encode CodePoint.isPrintable (Quoted.quote value) value
/-- A byte string in quotes, with its mark; only the characters from the space to the tilde stand for
    themselves. -/
def quotedBytes (value : Bytes) : Text :=
  lit "b" ++ Quoted.encode Quoted.isPlain (Quoted.quote (ofBytes value)) (ofBytes value)
/-- A byte string that may be changed, in quotes, with its mark; the single quote is escaped in it whichever
    quotes stand around. -/
def quotedBuffer (value : Bytes) : Text :=
  lit "bytearray(b" ++ Quoted.encode Quoted.isPlain '\'' (ofBytes value) ++ lit ")"

end TapeArena.Text
