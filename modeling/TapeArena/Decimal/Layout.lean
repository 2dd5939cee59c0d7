import TapeArena.Decimal.Shortest
import TapeArena.Text.Basic

/-!
Decimal numbers in writing. Layout decisions are one record; numbers in messages and in names of
exercises follow `plain`.
-/
namespace TapeArena.Decimal

/-- Where positional notation begins and ends, by the exponent of the leading digit, and how many digits
    an exponent has at least. -/
structure Layout where
  positionalFrom : Int
  positionalBelow : Int
  exponentWidth : Nat

/-- Numbers from `10^-4` on and below `10^16` are written positionally, others with a signed exponent of
    two digits or more. -/
def plain : Layout := ⟨-4,16,2⟩

namespace Layout

def zeros (count : Nat) : Text := List.replicate count (.ofChar '0')

/-- Positional notation; a whole number keeps one place behind the point. -/
def positional (digits : Text) (exponent : Int) : Text :=
  if 0 ≤ exponent then digits ++ zeros exponent.toNat ++ lit ".0"
  else
    let places := (-exponent).toNat
    if places < digits.length then
      digits.take (digits.length - places) ++ lit "." ++ digits.drop (digits.length - places)
    else lit "0." ++ zeros (places - digits.length) ++ digits
/-- Notation with one digit before the point and an exponent; without further digits there is no
    point. -/
def scientific (width : Nat) (digits : Text) (lead : Int) : Text :=
  let further := digits.drop 1
  digits.take 1 ++ (if further.isEmpty then [] else lit "." ++ further) ++ lit "e" ++
    lit (if lead < 0 then "-" else "+") ++ Text.padded width lead.natAbs
/-- Writes a positive decimal number. -/
def write (layout : Layout) (d : Digits) : Text :=
  let digits := Text.ofNat d.digits
  let lead := d.exponent + digits.length - 1
  if layout.positionalFrom ≤ lead ∧ lead < layout.positionalBelow then positional digits d.exponent
  else scientific layout.exponentWidth digits lead

end Layout

/-- A double in writing: the shortest digits that read back, zero with its sign, and words for what is
    not finite. -/
def ofFloat (x : Float) : Text :=
  let bits := x.toBits
  let sign := if bits.toNat / Nat.pow 2 63 = 1 then lit "-" else []
  match Binary.ofBits? bits with
  | some b => sign ++ plain.write b.shortest
  | none => if x.isNaN then lit "nan" else if x.isInf then sign ++ lit "inf" else sign ++ lit "0.0"

end TapeArena.Decimal
