import TapeArena.Text.Blank
import TapeArena.Text.DecimalDigit

/-!
Numbers read from text in the digits of any script: whole numbers, and decimal fractions rounded to the nearest
double.
-/
namespace TapeArena.Decimal

/-- Appends a digit to a number. -/
def push (n digit : Nat) : Nat := 10 * n + digit

/-- Digits with single underscores between them, none of them at an end. -/
def digits? : Text → Option (List Nat)
  | [] => none
  | c :: rest =>
    match c.digit?, rest with
    | none, _ => none
    | some digit, [] => some [digit]
    | some digit, d :: more =>
      (if d.is '_' then digits? more else digits? (d :: more)).map (digit :: ·)

/-- The most digits that a whole number in writing may have. -/
def mostDigits : Nat := 4300

/-- The words for a whole number with more digits, with their count if it is told. -/
def tooManyDigits (count : Option Nat) : Text :=
  let told := match count with
    | some count => lit ": value has " ++ Text.ofNat count ++ lit " digits"
    | none => []
  lit "Exceeds the limit (" ++ Text.ofNat mostDigits ++ lit " digits) for integer string conversion" ++ told ++
    lit "; use sys.set_int_max_str_digits() to increase the limit"

/-- A sign, if there is one, and what follows it. -/
def sign : Text → Bool × Text
  | c :: rest => if c.is '-' then (true,rest) else if c.is '+' then (false,rest) else (false,c :: rest)
  | [] => (false,[])

/-- The blanks that may stand around a whole number. In a text with characters beyond ASCII, these are
    the narrow ones and all blanks beyond ASCII. -/
def isOuter (c : CodePoint) : Bool := c.isNarrowBlank || (0x7F ≤ c.val && c.isBlank)

/-- Reads a whole number: blanks around it, one sign, digits of any script with single underscores
    between them. -/
def int? (text : Text) : Option Int := do
  let (negative,rest) := sign (Text.trim isOuter text)
  let digits ← digits? rest
  if digits.length ≤ mostDigits then
    let n : Nat := digits.foldl push 0
    return if negative then -(n : Int) else n
  else none

/-- The double nearest to `digits · 10^exponent`. Far beyond the range of doubles the powers of ten are
    not computed. -/
def nearest (digits : Nat) (exponent : Int) : Float :=
  let length : Int := (Nat.toDigits 10 digits).length
  if digits = 0 ∨ length + exponent < -400 then 0.0
  else if 400 < length + exponent then 1.0 / 0.0
  else Float.ofScientific digits (exponent < 0) exponent.natAbs

/-- A run of Latin digits and what follows it. -/
def latinDigits (text : Text) : List Nat × Text :=
  let isLatin (c : CodePoint) : Bool := 0x30 ≤ c.val && c.val ≤ 0x39
  ((text.takeWhile isLatin).map (·.val - 0x30),text.dropWhile isLatin)

/-- An exponent: nothing, or its mark, a sign if there is one, and digits. -/
def exponent? : Text → Option Int
  | [] => some 0
  | c :: rest =>
    if c.is 'e' ∨ c.is 'E' then
      let (negative,rest) := sign rest
      match latinDigits rest with
      | (first :: more,[]) =>
        let n : Nat := (first :: more).foldl push 0
        some (if negative then -(n : Int) else n)
      | _ => none
    else none

/-- The digits and the exponent of a decimal fraction without its sign: digits, a point with further digits, and
    an exponent; all parts but one of the two runs of digits may be left out. -/
def fraction? (text : Text) : Option (Nat × Int) := do
  let (whole,rest) := latinDigits text
  let (places,rest) :=
    match rest with
    | c :: rest => if c.is '.' then latinDigits rest else ([],c :: rest)
    | [] => ([],[])
  let exponent ← exponent? rest
  if whole.isEmpty && places.isEmpty then none
  else return ((whole ++ places).foldl push 0,exponent - places.length)

def infinities : List Text := [lit "inf",lit "infinity"]
def notNumber : Text := lit "nan"

/-- A digit of any script as the Latin one. -/
def latin (c : CodePoint) : CodePoint := (c.digit?.bind fun digit => CodePoint.ofNat? (0x30 + digit)).getD c
/-- A text without the underscores in it, if each of them stands between two digits; `behindDigit` tells that a
    digit stands before the text. -/
def dropUnderscores? (behindDigit : Bool) : Text → Option Text
  | [] => some []
  | c :: rest =>
    if c.is '_' then
      if behindDigit && rest.head?.any (·.digit?.isSome) then dropUnderscores? false rest else none
    else (dropUnderscores? c.digit?.isSome rest).map (c :: ·)

/-- Reads a fraction: blanks around it, one sign, and a decimal fraction in the digits of any script with single
    underscores between them, or a word in letters of any case. -/
def float? (text : Text) : Option Float := do
  let (negative,rest) := sign (← dropUnderscores? false (text.trim isOuter))
  let word := rest.map CodePoint.lower
  let size ←
    if infinities.contains word then some (1.0 / 0.0)
    else if word = notNumber then some (0.0 / 0.0)
    else (fraction? (rest.map latin)).map fun (digits,exponent) => nearest digits exponent
  return if negative then -size else size

end TapeArena.Decimal
