import TapeArena.Text.Basic

/-!
Days of the calendar, and moments of a day with or without an offset from universal time. A day and a moment
are written in two ways: in the form of the standard, and as a value inside a message.
-/
namespace TapeArena

/-- A day of the calendar. -/
structure Date where
  year : Nat
  month : Nat
  day : Nat
  deriving DecidableEq

/-- A moment of a day. The offset counts the minutes east of universal time; without one the place is not
    told. -/
structure Moment where
  date : Date
  hour : Nat
  minute : Nat
  second : Nat
  microsecond : Nat
  offset : Option Int
  deriving DecidableEq

/-- Why numbers make no day or no moment. -/
inductive CalendarError
  | year (value : Nat)
  | month
  | day
  | hour
  | minute
  | second
  | offset (minutes : Int)
  deriving DecidableEq

namespace Calendar

def minutesOfDay : Nat := 1440
/-- Numbers between commas. -/
def listed (numbers : List Nat) : Text := Text.join (lit ", ") (numbers.map Text.ofNat)
/-- A span of time as a value, in whole days and the seconds beyond them. -/
def writeSpan (minutes : Int) : Text :=
  let days := Int.fdiv minutes minutesOfDay
  let seconds := 60 * Int.fmod minutes minutesOfDay
  let parts := (if days = 0 then [] else [lit "days=" ++ Text.ofInt days]) ++
    (if seconds = 0 then [] else [lit "seconds=" ++ Text.ofInt seconds])
  lit "datetime.timedelta(" ++ (if parts.isEmpty then lit "0" else Text.join (lit ", ") parts) ++ lit ")"

end Calendar

def CalendarError.message : CalendarError → Text
  | .year value => lit "year " ++ Text.ofNat value ++ lit " is out of range"
  | .month => lit "month must be in 1..12"
  | .day => lit "day is out of range for month"
  | .hour => lit "hour must be in 0..23"
  | .minute => lit "minute must be in 0..59"
  | .second => lit "second must be in 0..59"
  | .offset minutes =>
    lit "offset must be a timedelta strictly between -timedelta(hours=24) and timedelta(hours=24), not " ++
      Calendar.writeSpan minutes ++ lit "."

namespace Date

def isLeap (year : Nat) : Bool := year % 4 = 0 && (year % 100 ≠ 0 || year % 400 = 0)
def monthLengths (year : Nat) : List Nat :=
  [31,if isLeap year then 29 else 28,31,30,31,30,31,31,30,31,30,31]
/-- The day with some numbers; the years from 1 to 9999 are known. -/
def ofNumbers (year month day : Nat) : Except CalendarError Date :=
  if year = 0 ∨ 9999 < year then .error (.year year)
  else if month = 0 ∨ 12 < month then .error .month
  else if day = 0 ∨ (monthLengths year).getD (month - 1) 0 < day then .error .day
  else .ok ⟨year,month,day⟩
/-- The number of a day; the first day of the first year is day one. -/
def number (d : Date) : Nat :=
  let before := d.year - 1
  365 * before + before / 4 - before / 100 + before / 400 +
    ((monthLengths d.year).take (d.month - 1)).foldl (· + ·) 0 + d.day
/-- A day in the form of the standard. -/
def standard (d : Date) : Text :=
  Text.padded 4 d.year ++ lit "-" ++ Text.padded 2 d.month ++ lit "-" ++ Text.padded 2 d.day
/-- A day as a value. -/
def write (d : Date) : Text := lit "datetime.date(" ++ Calendar.listed [d.year,d.month,d.day] ++ lit ")"

end Date

namespace Moment

/-- The moment with some numbers. The offset is checked first, then the day, then the time; an offset is
    shorter than a day. -/
def ofNumbers (year month day hour minute second microsecond : Nat) (offset : Option Int) :
    Except CalendarError Moment := do
  if let some minutes := offset then
    if Calendar.minutesOfDay ≤ minutes.natAbs then throw (.offset minutes)
  let date ← Date.ofNumbers year month day
  if 24 ≤ hour then throw .hour
  if 60 ≤ minute then throw .minute
  if 60 ≤ second then throw .second
  return { date, hour, minute, second, microsecond, offset }
/-- The minutes up to a moment in universal time. -/
def universalMinutes (m : Moment) : Int :=
  (m.date.number * Calendar.minutesOfDay + m.hour * 60 + m.minute : Nat) - m.offset.getD 0
/-- Two moments are one: both tell an offset and coincide in universal time, or both tell none and agree. -/
def same (a b : Moment) : Bool :=
  a.offset.isSome = b.offset.isSome && a.universalMinutes = b.universalMinutes && a.second = b.second &&
    a.microsecond = b.microsecond
/-- A moment in the form of the standard. -/
def standard (m : Moment) : Text :=
  let fraction := if m.microsecond = 0 then [] else lit "." ++ Text.padded 6 m.microsecond
  let offset := match m.offset with
    | none => []
    | some minutes =>
      lit (if minutes < 0 then "-" else "+") ++ Text.padded 2 (minutes.natAbs / 60) ++ lit ":" ++
        Text.padded 2 (minutes.natAbs % 60)
  m.date.standard ++ lit " " ++ Text.padded 2 m.hour ++ lit ":" ++ Text.padded 2 m.minute ++ lit ":" ++
    Text.padded 2 m.second ++ fraction ++ offset
/-- A moment as a value; seconds and microseconds are left out if nothing but zeros follows. -/
def write (m : Moment) : Text :=
  let numbers := [m.date.year,m.date.month,m.date.day,m.hour,m.minute] ++
    (if m.microsecond ≠ 0 then [m.second,m.microsecond] else if m.second ≠ 0 then [m.second] else [])
  let offset := match m.offset with
    | none => []
    | some 0 => lit ", tzinfo=datetime.timezone.utc"
    | some minutes => lit ", tzinfo=datetime.timezone(" ++ Calendar.writeSpan minutes ++ lit ")"
  lit "datetime.datetime(" ++ Calendar.listed numbers ++ offset ++ lit ")"

end Moment

end TapeArena
