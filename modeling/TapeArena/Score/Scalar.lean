/-!
The numbers that scores are computed in. Every score is one definition over a `Scalar`: with doubles it is
what is reported, with rational numbers it is exact.
-/
namespace TapeArena

/-- Numbers with the four operations and an order that can be tested. -/
class Scalar (α : Type) extends Add α, Sub α, Mul α, Div α where
  ofNat : Nat → α
  less : α → α → Bool
  atMost : α → α → Bool

instance : Scalar Float where
  ofNat := Float.ofNat
  less a b := a < b
  atMost a b := a ≤ b

instance : Scalar Rat where
  ofNat n := n
  less a b := a < b
  atMost a b := a ≤ b

namespace Scalar
variable {α : Type} [Scalar α]

def zero : α := ofNat 0
def one : α := ofNat 1

def sumInOrder (start : α) (xs : List α) : α := xs.foldl (· + ·) start

/-- The number of lanes in which long sums are computed. -/
def lanes : Nat := 8
/-- The most numbers that are summed in lanes; more are split in halves first. -/
def laneBlock : Nat := 128

/-- The sum of one lane: every eighth number from the one at `lane` on, over full rows only. -/
def lane (xs : Array α) (lane : Nat) : α :=
  (List.range (xs.size / lanes - 1)).foldl
    (fun sum row => sum + xs.getD ((row + 1) * lanes + lane) zero) (xs.getD lane zero)

/-- The sum of at most `laneBlock` numbers. A few are added in order; more are added in eight lanes, the
    lanes are added in pairs, and what is left over behind the full rows comes last. -/
def sumBlock (xs : List α) : α :=
  if xs.length < lanes then sumInOrder zero xs
  else
    let r := lane xs.toArray
    let rows := ((r 0 + r 1) + (r 2 + r 3)) + ((r 4 + r 5) + (r 6 + r 7))
    sumInOrder rows (xs.drop (xs.length / lanes * lanes))

/-- The sum of any number of numbers: long ones are split near the middle, at a multiple of eight. -/
def sum (xs : List α) : α :=
  if _long : laneBlock < xs.length then
    let half := xs.length / 2 - xs.length / 2 % lanes
    sum (xs.take half) + sum (xs.drop half)
  else sumBlock xs
termination_by xs.length
decreasing_by
  all_goals
    simp only [laneBlock] at _long
    simp only [lanes,List.length_take,List.length_drop]
    omega

def mean (xs : List α) : α := sum xs / ofNat xs.length

end Scalar

end TapeArena
