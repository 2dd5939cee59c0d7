import TapeArena.Decimal.Reading
import TapeArena.Yaml.Time

/-!
What a part of a document stands for. A tag may say so. Without one a collection stands for what its form tells,
and a scalar that is plain, or has the tag that leaves it to its form, is nothing, a truth value, a whole number, a
fraction, a day or a moment if it has the form of one, and else a text.
-/
namespace TapeArena.Yaml

/-- What a part of a document stands for. `merge` is a key that takes over the fields of other mappings, and `self`
    a key that stands for itself; neither is a value, and `unknown` has no value either. -/
inductive Kind
  | nothing
  | flag
  | whole
  | fraction
  | binary
  | time
  | text
  | sequence
  | mapping
  | set
  | pairs
  | merge
  | self
  | unknown
  deriving DecidableEq

namespace Form

/-! ### Words -/

/-- A word in its three casings: small, with a capital, and in capitals. -/
def casings (small capital capitals : String) : List Text := [lit small,lit capital,lit capitals]

def nulls : List Text := [] :: lit "~" :: casings "null" "Null" "NULL"
def flags : List Text :=
  casings "yes" "Yes" "YES" ++ casings "true" "True" "TRUE" ++ casings "on" "On" "ON" ++
    casings "no" "No" "NO" ++ casings "false" "False" "FALSE" ++ casings "off" "Off" "OFF"
def infinities : List Text := casings ".inf" ".Inf" ".INF"
def notNumbers : List Text := casings ".nan" ".NaN" ".NAN"
/-- Signs that no scalar may consist of. -/
def reserved : List Text := [lit "!",lit "&",lit "*"]

/-! ### Digits -/

/-- A Latin digit below a base, which is ten at most. -/
def digitBelow (base : Nat) (c : CodePoint) : Bool := 0x30 ≤ c.val && c.val < 0x30 + base
/-- Digits of a class and underscores, at least one character. -/
def isRun (digit : CodePoint → Bool) (text : Text) : Bool :=
  !text.isEmpty && text.all fun c => digit c || c.is '_'
/-- Latin digits and underscores that begin with a digit. -/
def isNumeral (text : Text) : Bool := text.head?.any isDigit && isRun isDigit text
/-- A place in base sixty: one digit, or two of which the first is below six. -/
def isSixtieth : Text → Bool
  | [one] => isDigit one
  | [tens,one] => digitBelow 6 tens && isDigit one
  | _ => false

def atColons : Text → List Text
  | [] => [[]]
  | c :: rest =>
    if c.is ':' then [] :: atColons rest
    else
      match atColons rest with
      | [] => [[c]]
      | first :: more => (c :: first) :: more

/-! ### Numbers -/

/-- A whole number without its sign has this form. -/
def isNat : Text → Bool
  | [] => false
  | c :: rest =>
    if c.is '0' then
      match rest with
      | [] => true
      | d :: more =>
        if d.is 'b' then isRun (digitBelow 2) more
        else if d.is 'x' then isRun (fun e => (hexDigit? e).isSome) more
        else isRun (digitBelow 8) rest
    else
      match atColons (c :: rest) with
      | [] => false
      | first :: places => isNumeral first && places.all isSixtieth
def isWhole (text : Text) : Bool := isNat (Decimal.sign text).2

/-- The exponent of a fraction is left out, or has a mark, a sign and digits. -/
def isExponent : Text → Bool
  | [] => true
  | mark :: sign :: digits =>
    (mark.is 'e' || mark.is 'E') && (sign.is '+' || sign.is '-') && !digits.isEmpty && digits.all isDigit
  | _ => false
/-- The places behind the point of a fraction, and its exponent, have this form. -/
def areTail (text : Text) : Bool := isExponent (text.dropWhile fun c => isDigit c || c.is '_')
/-- A fraction without its sign has this form: digits, a point, places and an exponent. The digits before the
    point may be left out only if there is no sign. -/
def isDecimal (signed : Bool) (text : Text) : Bool :=
  let whole := text.takeWhile (!·.is '.')
  let behind := (text.dropWhile (!·.is '.')).drop 1
  text.any (·.is '.') && areTail behind &&
    if whole.isEmpty then !signed && behind.head?.any isDigit else isNumeral whole
/-- A fraction in base sixty without its sign has this form: places with colons between them, the last one
    with a point behind it. -/
def isSexagesimal (text : Text) : Bool :=
  match atColons text with
  | first :: second :: more =>
    let last := (second :: more).getLast (by simp)
    isNumeral first && ((second :: more).dropLast).all isSixtieth && last.any (·.is '.') &&
      isSixtieth (last.takeWhile (!·.is '.')) &&
      ((last.dropWhile (!·.is '.')).drop 1).all fun c => isDigit c || c.is '_'
  | _ => false
/-- A fraction, infinity or what is no number has this form. -/
def isFraction (text : Text) : Bool :=
  let signed := text.head?.any fun c => c.is '+' || c.is '-'
  let rest := (Decimal.sign text).2
  notNumbers.contains text || infinities.contains rest || isDecimal signed rest || isSexagesimal rest

/-! ### Days and moments -/

/-- A day or a moment has this form; a day alone has two digits for month and day. -/
def isTime (text : Text) : Bool :=
  match Time.ofText? text with
  | some time => time.clock.isSome || text.length = 10
  | none => false

/-- A text without one line feed at its end. -/
def dropLineEnd (text : Text) : Text := if text.getLast?.any (·.is '\n') then text.dropLast else text

end Form

namespace Kind
open Form

/-- What the form of a text says that it stands for. -/
def ofForm (text : Text) : Kind :=
  if nulls.contains text then .nothing
  else if flags.contains text then .flag
  else if text = lit "<<" then .merge
  else if text = lit "=" then .self
  else if reserved.contains text then .unknown
  else if isFraction text then .fraction
  else if isWhole text then .whole
  else if isTime text then .time
  else .text
/-- What a scalar stands for whose form decides. A line feed at its end does not count, unless nothing else is
    there. -/
def ofScalar (text : Text) : Kind :=
  let line := dropLineEnd text
  if line.isEmpty && !text.isEmpty then .text else ofForm line

/-- The beginning of the tags that every document knows. -/
def tagStart : Text := lit "tag:yaml.org,2002:"
/-- The tags that say what a part of a document stands for, without their common beginning. -/
def tags : List (String × Kind) :=
  [("null",.nothing),("bool",.flag),("int",.whole),("float",.fraction),("binary",.binary),
   ("timestamp",.time),("str",.text),("seq",.sequence),("map",.mapping),("set",.set),("omap",.pairs),
   ("pairs",.pairs),("merge",.merge),("value",.self)]
/-- What a tag in full stands for. -/
def ofTag (tag : Text) : Kind :=
  ((tags.find? fun (name,_) => tag = tagStart ++ lit name).map (·.2)).getD .unknown

end Kind

end TapeArena.Yaml
