/-!
The shortest decimal that reads back as a given binary number. The number is `m · 2^q`; every real
closer to it than to its neighbours reads back, and the two points halfway as well if `m` is even. Grids
of one, two, … seventeen digits are tried in turn: on each, the two points around the number are tested
with whole numbers only, and the first grid with a hit gives the digits, those of the nearer point; if
both are equally near, the even one.
-/
namespace TapeArena.Decimal

/-- A positive binary number `m · 2^q`. `narrow` tells that its lower neighbour is only half as far away
    as its upper one. -/
structure Binary where
  mantissa : Nat
  exponent : Int
  narrow : Bool
  deriving DecidableEq

/-- A decimal number `digits · 10^exponent`. -/
structure Digits where
  digits : Nat
  exponent : Int
  deriving DecidableEq

/-- The same number with no zero at the end of its digits. -/
def Digits.trim (d : Digits) : Digits :=
  if more : 0 < d.digits ∧ d.digits % 10 = 0 then trim ⟨d.digits / 10,d.exponent + 1⟩ else d
termination_by d.digits
decreasing_by exact Nat.div_lt_self more.1 (by decide)

namespace Binary

/-- The number that the low 63 bits of a double encode, if it is finite and not zero. -/
def ofBits? (bits : UInt64) : Option Binary :=
  let fraction : Nat := bits.toNat % Nat.pow 2 52
  let biased : Nat := bits.toNat / Nat.pow 2 52 % Nat.pow 2 11
  if biased = Nat.pow 2 11 - 1 then none
  else if biased = 0 then if fraction = 0 then none else some ⟨fraction,-1074,false⟩
  else some ⟨Nat.pow 2 52 + fraction,(biased : Int) - 1075,decide (fraction = 0 ∧ biased ≠ 1)⟩

/-- A scale on which the number is `4 · m · numerator` and a point `d · 10^e` is `d · unit`. -/
structure Scale where
  numerator : Nat
  unit : Nat

/-- The scale that compares `4 · m · 2^(q-2)` with multiples of `10^e` in whole numbers; quarters of the
    last place bring in the points halfway to the neighbours. -/
def scale (q e : Int) : Scale :=
  ⟨Nat.pow 2 (q - 2).toNat * Nat.pow 10 (-e).toNat,Nat.pow 2 (2 - q).toNat * Nat.pow 10 e.toNat⟩

/-- The grid point `d · 10^e` reads back as the number. -/
def readsBack (b : Binary) (e : Int) (d : Nat) : Bool :=
  let s := scale b.exponent e
  let low := (4 * b.mantissa - (if b.narrow then 1 else 2)) * s.numerator
  let high := (4 * b.mantissa + 2) * s.numerator
  let point := d * s.unit
  if b.mantissa % 2 = 0 then low ≤ point && point ≤ high else low < point && point < high

/-- The number lies below `10^e`. -/
def below (b : Binary) (e : Int) : Bool :=
  let s := scale b.exponent e
  4 * b.mantissa * s.numerator < s.unit

/-- The exponent `e` with `10^e ≤ m · 2^q < 10^(e+1)`, found upward from an estimate by the binary
    logarithm that is never too high. -/
def magnitude (b : Binary) : Int :=
  let estimate := ((b.mantissa.log2 : Int) + b.exponent) * 30103 / 100000 - 1
  ([0,1,2,3].find? fun more => b.below (estimate + more + 1)).elim estimate (estimate + ·)

/-- The nearest point of the grid of `10^e`, if it reads back; of two equally near ones the even one. -/
def nearest? (b : Binary) (e : Int) : Option Nat :=
  let s := scale b.exponent e
  let value := 4 * b.mantissa * s.numerator
  let d := value / s.unit
  match b.readsBack e d, b.readsBack e (d + 1) with
  | true, true =>
    let rest := value % s.unit
    if 2 * rest < s.unit then some d
    else if s.unit < 2 * rest then some (d + 1)
    else some (if d % 2 = 0 then d else d + 1)
  | true, false => some d
  | false, true => some (d + 1)
  | false, false => none

/-- The shortest decimal that reads back as the number, its last digit not zero. -/
def shortest (b : Binary) : Digits :=
  let top := b.magnitude
  let found := (List.range 17).findSome? fun (count : Nat) =>
    (b.nearest? (top - count)).map fun d => (⟨d,top - count⟩ : Digits)
  (found.getD ⟨b.mantissa * Nat.pow 2 b.exponent.toNat,0⟩).trim

end Binary

end TapeArena.Decimal
