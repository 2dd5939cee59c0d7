import TapeArena.Base64
import TapeArena.Datum
import TapeArena.Text.Casing
import TapeArena.Yaml.Fault
import TapeArena.Yaml.Kind

/-!
The values of scalars, given what they stand for. Whole numbers are written in base two, eight, ten or sixteen, or
with colons in base sixty; underscores in numbers do not count.
-/
namespace TapeArena.Yaml

namespace Literal
open Form

def affirmative : List Text := [lit "yes",lit "true",lit "on"]
def negative : List Text := [lit "no",lit "false",lit "off"]
/-- Reads a truth value, whatever the case of its letters. -/
def readFlag (text : Text) : Read Bool :=
  let word := text.map CodePoint.lower
  if affirmative.contains word then .ok true else if negative.contains word then .ok false else .error .malformed

/-! ### Whole numbers -/

def dropUnderscores (text : Text) : Text := text.filter (!·.is '_')
/-- The value of a digit of a base: a decimal digit of any script, or a Latin letter. -/
def digit? (base : Nat) (c : CodePoint) : Option Nat := (c.digit?.or (hexDigit? c)).filter (· < base)
/-- The small letter that names a base behind a zero. -/
def baseLetters : List (Nat × Char) := [(2,'b'),(8,'o'),(16,'x')]
/-- The text behind a zero and the letter that names a base, or the text itself if it does not begin so. -/
def dropBase (base : Nat) : Text → Text
  | nought :: letter :: rest =>
    if nought.digit? = some 0 ∧ ((baseLetters.lookup base).any letter.lower.is) then rest else nought :: letter :: rest
  | text => text
/-- Reads a whole number in a base: blanks around it, one sign, the name of the base if it is given, digits. In base
    ten the number of digits is limited, and they are counted before anything behind them is looked at. -/
def readIn (base : Nat) (text : Text) : Read Int := do
  let (negative,rest) := Decimal.sign (text.trim Decimal.isOuter)
  let body := dropBase base rest
  let digits := (body.takeWhile fun c => (digit? base c).isSome).filterMap (digit? base)
  if base = 10 ∧ Decimal.mostDigits < digits.length then throw (.tooManyDigits digits.length)
  if digits.isEmpty || digits.length < body.length then throw (.notWhole base text)
  let n : Nat := digits.foldl (fun n digit => base * n + digit) 0
  return if negative then -(n : Int) else n
/-- Reads a whole number without its sign and without underscores. -/
def readUnsigned (text : Text) : Read Int := do
  if text = lit "0" then return 0
  else if (lit "0b").isPrefixOf text then readIn 2 (text.drop 2)
  else if (lit "0x").isPrefixOf text then readIn 16 (text.drop 2)
  else if (lit "0").isPrefixOf text then readIn 8 text
  else if text.any (·.is ':') then
    let places ← (atColons text).mapM (readIn 10)
    return places.foldl (fun n place => 60 * n + place) 0
  else readIn 10 text
def readWhole (text : Text) : Read Int := do
  let (negative,rest) := Decimal.sign (dropUnderscores text)
  let n ← readUnsigned rest
  return if negative then -n else n

/-! ### Fractions -/

def readDecimal (text : Text) : Read Float :=
  match Decimal.float? text with
  | some x => .ok x
  | none => .error (.notFraction text)
/-- The sign of a fraction, and what follows it in small letters without underscores. -/
def fractionParts (text : Text) : Bool × Text := Decimal.sign (dropUnderscores text).lower
def infinity : Text := lit ".inf"
def notNumber : Text := lit ".nan"
/-- Reads a fraction without its sign. In base sixty the places are added from the last one on. -/
def readSize (text : Text) : Read Float := do
  if text = infinity then return 1.0 / 0.0
  else if text = notNumber then return 0.0 / 0.0
  else if text.any (·.is ':') then
    let places ← (atColons text).mapM readDecimal
    let (value,_) := places.reverse.foldl
      (fun (value,base) place => (value + place * Float.ofNat base,60 * base)) (0.0,1)
    return value
  else readDecimal text
def readFraction (text : Text) : Read Float := do
  let (negative,rest) := fractionParts text
  let size ← readSize rest
  return if negative then -size else size
/-- A fraction is the word for what is no number, which means one and the same thing wherever it stands. -/
def isNotNumber (text : Text) : Bool := (fractionParts text).2 = notNumber

/-! ### Days and moments -/

/-- Reads a day or a moment; a line feed at its end does not count. -/
def readTime (text : Text) : Read Datum := do
  let time ← Read.ofOption (Time.ofText? (dropLineEnd text))
  match time.clock with
  | none => ((Date.ofNumbers time.year time.month time.day).map Datum.date).mapError .calendar
  | some clock =>
    ((Moment.ofNumbers time.year time.month time.day clock.hour clock.minute clock.second clock.microsecond
      clock.offset).map Datum.moment).mapError .calendar

end Literal

open Literal in
/-- The value of a scalar; a collection has none of its own. -/
def Kind.read (kind : Kind) (text : Text) : Read Datum :=
  match kind with
  | .nothing => .ok .null
  | .flag => (readFlag text).map .bool
  | .whole => (readWhole text).map .int
  | .fraction => (readFraction text).map .float
  | .binary => Read.ofOption ((Base64.decode? text).map .bytes)
  | .time => readTime text
  | .text => .ok (.text text)
  | .sequence | .mapping | .set | .pairs | .merge | .self | .unknown => .error .malformed

end TapeArena.Yaml
