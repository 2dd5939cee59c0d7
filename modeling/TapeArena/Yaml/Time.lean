import TapeArena.Yaml.Cursor

/-!
Days and moments as a document writes them: the numbers of a day, and after a mark or blanks what the clock shows,
with an offset from universal time.
-/
namespace TapeArena.Yaml

/-- What a clock shows, and an offset in minutes east of universal time. -/
structure Clock where
  hour : Nat
  minute : Nat
  second : Nat
  microsecond : Nat
  offset : Option Int

/-- The numbers of a day or a moment as they are written; there may be no day with these numbers. -/
structure Time where
  year : Nat
  month : Nat
  day : Nat
  clock : Option Clock

namespace Time

/-- The number that Latin digits stand for. -/
def decimal (digits : Text) : Nat := digits.foldl (fun n digit => 10 * n + (digit.val - 0x30)) 0
/-- A number of at least `least` and at most `most` Latin digits, and what follows it. -/
def number? (least most : Nat) (text : Text) : Option (Nat × Text) :=
  let digits := (text.take most).takeWhile isDigit
  if digits.length < least then none else some (decimal digits,text.drop digits.length)
/-- What follows a character. -/
def after? (char : Char) : Text → Option Text
  | [] => none
  | c :: rest => if c.is char then some rest else none

/-- An offset from universal time: none, a mark for none at all, or hours and minutes with a sign. -/
def offset? (text : Text) : Option (Option Int) := do
  match text.dropWhile isSpacing with
  | [] => if text.isEmpty then return none else none
  | c :: rest =>
    if c.is 'Z' then if rest.isEmpty then return some 0 else none
    else if c.is '+' ∨ c.is '-' then
      let (hours,rest) ← number? 1 2 rest
      let (minutes,rest) ← if rest.isEmpty then some (0,rest) else number? 2 2 (← after? ':' rest)
      if rest.isEmpty then
        let size : Int := (60 * hours + minutes : Nat)
        return some (if c.is '-' then -size else size)
      else none
    else none
/-- Hours, minutes, seconds with their places behind the point, and the offset; places beyond the sixth are left
    out. -/
def clock? (text : Text) : Option Clock := do
  let (hour,rest) ← number? 1 2 text
  let (minute,rest) ← number? 2 2 (← after? ':' rest)
  let (second,rest) ← number? 2 2 (← after? ':' rest)
  let behind := (after? '.' rest).getD []
  let places := behind.takeWhile isDigit
  let rest := if (after? '.' rest).isSome then behind.drop places.length else rest
  let microsecond := decimal (places.take 6) * Nat.pow 10 (6 - places.length)
  return { hour, minute, second, microsecond, offset := ← offset? rest }
/-- A day, or a day and what the clock shows. -/
def ofText? (text : Text) : Option Time := do
  let (year,rest) ← number? 4 4 text
  let (month,rest) ← number? 1 2 (← after? '-' rest)
  let (day,rest) ← number? 1 2 (← after? '-' rest)
  match rest with
  | [] => return ⟨year,month,day,none⟩
  | c :: more =>
    if c.is 'T' ∨ c.is 't' then return ⟨year,month,day,some (← clock? more)⟩
    else if isSpacing c then return ⟨year,month,day,some (← clock? (more.dropWhile isSpacing))⟩
    else none

end Time

end TapeArena.Yaml
