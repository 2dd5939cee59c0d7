import TapeArena.Text.Basic

/-!
White space, in two extents: all blanks, which settings are trimmed of, and the narrow ones that may
stand around a number.
-/
namespace TapeArena

namespace CodePoint

/-- The tab, the line feed, the vertical tab, the form feed, the carriage return and the space. -/
def isNarrowBlank (c : CodePoint) : Bool := (9 ≤ c.val && c.val ≤ 13) || c.val = 32

/-- All blanks: the narrow ones, the four separators of information, the next line, and the spaces and
    separators of all scripts. -/
def isBlank (c : CodePoint) : Bool :=
  c.isNarrowBlank || (0x1C ≤ c.val && c.val ≤ 0x1F) || (0x2000 ≤ c.val && c.val ≤ 0x200A) ||
    [0x85,0xA0,0x1680,0x2028,0x2029,0x202F,0x205F,0x3000].contains c.val

end CodePoint

namespace Text

/-- The text without the characters of a class at its end. -/
def trimEnd (drop : CodePoint → Bool) (text : Text) : Text := (text.reverse.dropWhile drop).reverse
/-- The text without the characters of a class at both ends. -/
def trim (drop : CodePoint → Bool) (text : Text) : Text := trimEnd drop (text.dropWhile drop)
/-- The text without the blanks at both ends. -/
def strip (text : Text) : Text := trim CodePoint.isBlank text

theorem isBlank_of_isNarrowBlank {c : CodePoint} (narrow : c.isNarrowBlank) : c.isBlank := by
  simp [CodePoint.isBlank,narrow]

end Text

end TapeArena
