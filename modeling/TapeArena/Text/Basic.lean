/-!
Text as the arena sees it: a list of code points, surrogates included, because programs, names and
inputs may hold a surrogate without its partner. A byte is the code point of the same number, so
every byte string is also a text.
-/
namespace TapeArena

/-- A code point of the full range U+0000 to U+10FFFF; surrogates are not left out. -/
abbrev CodePoint := Fin 0x110000

/-- A text is its code points in order; positions and lengths count code points. -/
abbrev Text := List CodePoint

abbrev Bytes := List UInt8

namespace CodePoint

def ofChar (c : Char) : CodePoint :=
  ⟨c.toNat,by
    have valid := c.valid
    simp only [UInt32.isValidChar,Nat.isValidChar] at valid
    show c.val.toNat < 0x110000
    omega⟩
/-- The code point with the number of a byte. -/
def ofByte (b : UInt8) : CodePoint := ⟨b.toNat,by have := b.toNat_lt; omega⟩
/-- The code point of a number, if there is one. -/
def ofNat? (n : Nat) : Option CodePoint := if small : n < 0x110000 then some ⟨n,small⟩ else none
/-- The byte order mark, which may stand at the beginning of a file. -/
def isByteOrderMark (c : CodePoint) : Bool := c.val = 0xFEFF
/-- The code point is that of a character. -/
def is (c : CodePoint) (char : Char) : Bool := c.val = char.toNat
/-- What a code point stands for in a table of characters. -/
def lookup? (table : List (Char × Char)) (c : CodePoint) : Option CodePoint :=
  (table.find? fun (char,_) => c.is char).map fun (_,meant) => ofChar meant
/-- A Latin capital letter as a small one; any other code point as it is. -/
def lower (c : CodePoint) : CodePoint :=
  if capital : 0x41 ≤ c.val ∧ c.val ≤ 0x5A then ⟨c.val + 0x20,by omega⟩ else c
/-- A code point up to U+00FF is the byte of the same number. -/
def byte? (c : CodePoint) : Option UInt8 := if c.val < 256 then some (UInt8.ofNat c.val) else none

theorem byte?_ofByte (b : UInt8) : (ofByte b).byte? = some b := by
  have := b.toNat_lt
  simp [byte?,ofByte,show b.toNat < 256 by omega]

end CodePoint

/-- The text of a string; the arena's own words are written this way. -/
def lit (s : String) : Text := s.toList.map CodePoint.ofChar

namespace Text

/-- Every byte read as the code point of the same number. -/
def ofBytes (bytes : Bytes) : Text := bytes.map CodePoint.ofByte
/-- The bytes of a text none of whose code points is above U+00FF. -/
def latin? (text : Text) : Option Bytes := text.mapM CodePoint.byte?
/-- The decimal digits of a natural number. -/
def ofNat (n : Nat) : Text := (Nat.toDigits 10 n).map CodePoint.ofChar
/-- The decimal digits of an integer, after a minus sign if it is negative. -/
def ofInt : Int → Text
  | .ofNat n => ofNat n
  | .negSucc n => lit "-" ++ ofNat (n + 1)
/-- The decimal digits of a natural number, with zeros before them up to a width. -/
def padded (width n : Nat) : Text :=
  let digits := ofNat n
  List.replicate (width - digits.length) (.ofChar '0') ++ digits
/-- The texts in order, with a separator between neighbours. -/
def join (separator : Text) : List Text → Text
  | [] => []
  | [only] => only
  | first :: rest => first ++ separator ++ join separator rest

theorem latin?_ofBytes (bytes : Bytes) : latin? (ofBytes bytes) = some bytes := by
  induction bytes with
  | nil => rfl
  | cons b rest ih =>
    simp only [latin?,ofBytes,List.map_cons,List.mapM_cons,CodePoint.byte?_ofByte] at ih ⊢
    rw [ih]
    rfl

end Text

end TapeArena
