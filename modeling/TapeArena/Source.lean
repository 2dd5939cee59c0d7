import TapeArena.Command
import TapeArena.Text.Units

/-!
Programs and inputs arrive as text or as bytes. A program in bytes has one position for each byte; an
input in bytes is fed as it is, an input in text through its code units.
-/
namespace TapeArena

/-- Text or bytes, as a program or an input is handed over. -/
inductive Source
  | text (value : Text)
  | bytes (value : Bytes)
  deriving DecidableEq

namespace Source

/-- The characters of a program; bytes are the code points of the same numbers. -/
def characters : Source → Text
  | .text value => value
  | .bytes value => Text.ofBytes value
def program (source : Source) : Program := Program.ofText source.characters
/-- The bytes that a running program reads from an input. -/
def feed : Source → Bytes
  | .text value => value.lowBytes
  | .bytes value => value
/-- The number of positions of a program. -/
def length : Source → Nat
  | .text value => value.length
  | .bytes value => value.length

instance : Inhabited Source := ⟨.bytes []⟩

theorem length_program (source : Source) : source.program.length = source.length := by
  cases source <;> simp [program,characters,length,Program.ofText,Text.ofBytes]

end Source

end TapeArena
