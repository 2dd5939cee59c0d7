import TapeArena.Text.Basic

/-!
How a text is fed to a program that reads bytes: it is written as UTF-16 code units, and of each unit
only the low byte is read. A code point beyond U+FFFF is two units, any other one, a surrogate alone
included.
-/
namespace TapeArena

/-- The UTF-16 code units of a code point. -/
def CodePoint.units (c : CodePoint) : List Nat :=
  if c.val < 0x10000 then [c.val]
  else [0xD800 + (c.val - 0x10000) / 0x400,0xDC00 + (c.val - 0x10000) % 0x400]

def Text.units (text : Text) : List Nat := text.flatMap CodePoint.units

/-- The low byte of every code unit, in order. -/
def Text.lowBytes (text : Text) : Bytes := text.units.map UInt8.ofNat

theorem Text.lowBytes_append (first second : Text) :
    Text.lowBytes (first ++ second) = Text.lowBytes first ++ Text.lowBytes second := by
  simp [lowBytes,units]

end TapeArena
