import TapeArena.Calendar
import TapeArena.Decimal.Layout
import TapeArena.Decimal.Reading
import TapeArena.Entries
import TapeArena.Text.Quoted

/-!
Loosely typed values: what a limit is handed over as, and what a collection of exercises is read from.
Mappings keep the order of their entries.
-/
namespace TapeArena

/-- A value of any type. `buffer` is a byte string that may be changed in place, `word` a whole number of
    fixed width, `tuple` a sequence of fixed length. `elided` stands for a list or a mapping whose contents are
    not told, because it lies inside itself. -/
inductive Datum
  | null
  | bool (value : Bool)
  | int (value : Int)
  | float (value : Float)
  | text (value : Text)
  | bytes (value : Bytes)
  | buffer (value : Bytes)
  | word (value : Int)
  | date (value : Date)
  | moment (value : Moment)
  | list (items : List Datum)
  | tuple (items : List Datum)
  | dict (entries : List (Datum × Datum))
  | set (members : List Datum)
  | elided (mapping : Bool)

namespace Datum

instance : Inhabited Datum := ⟨.null⟩

/-! ### Writing -/

def bracketed (opening closing : String) (items : List Text) : Text :=
  lit opening ++ Text.join (lit ", ") items ++ lit closing

mutual
/-- A value in writing, as messages show it, unless something keeps it from being written: texts in quotes, items in
    brackets. -/
def write : Datum → Text
  | .null => lit "None"
  | .bool value => lit (if value then "True" else "False")
  | .int value => Text.ofInt value
  | .float value => Decimal.ofFloat value
  | .text value => Text.quoted value
  | .bytes value => Text.quotedBytes value
  | .buffer value => Text.quotedBuffer value
  | .word value => lit "np.int64(" ++ Text.ofInt value ++ lit ")"
  | .date value => value.write
  | .moment value => value.write
  | .list items => bracketed "[" "]" (writeAll items)
  | .tuple [only] => lit "(" ++ write only ++ lit ",)"
  | .tuple items => bracketed "(" ")" (writeAll items)
  | .dict entries => bracketed "\x7b" "\x7d" (writeEntries entries)
  | .set [] => lit "set()"
  | .set members => bracketed "\x7b" "\x7d" (writeAll members)
  | .elided mapping => lit (if mapping then "\x7b...\x7d" else "[...]")
def writeAll : List Datum → List Text
  | [] => []
  | item :: rest => write item :: writeAll rest
/-- Every entry of a mapping in writing. -/
def writeEntries : List (Datum × Datum) → List Text
  | [] => []
  | (key,value) :: rest => (write key ++ lit ": " ++ write value) :: writeEntries rest
end

/-- A value as a name: a text stands for itself, a number of fixed width is written like any other number,
    days and moments are written in the form of the standard, and all else as in a message. -/
def name : Datum → Text
  | .text value => value
  | .word value => Text.ofInt value
  | .date value => value.standard
  | .moment value => value.standard
  | other => other.write

mutual
/-- A value and all values in it, in the order in which they are written, each with its level. What lies in a list,
    a tuple or a mapping is one level deeper than that, the members of a set are two. -/
def parts (level : Nat) : Datum → List (Nat × Datum)
  | .list items => (level,.list items) :: partsOfAll (level + 1) items
  | .tuple items => (level,.tuple items) :: partsOfAll (level + 1) items
  | .dict entries => (level,.dict entries) :: partsOfEntries (level + 1) entries
  | .set members => (level,.set members) :: partsOfAll (level + 2) members
  | other => [(level,other)]
def partsOfAll (level : Nat) : List Datum → List (Nat × Datum)
  | [] => []
  | item :: rest => parts level item ++ partsOfAll level rest
/-- The parts of every entry of a mapping, a key before its value. -/
def partsOfEntries (level : Nat) : List (Datum × Datum) → List (Nat × Datum)
  | [] => []
  | (key,value) :: rest => parts level key ++ parts level value ++ partsOfEntries level rest
end

/-- A whole number with too many digits to be written. -/
def isLong : Datum → Bool
  | .int value => Nat.pow 10 Decimal.mostDigits ≤ value.natAbs
  | _ => false

/-- What keeps a value from being written: a part that is nested too deep, or a number that is too long. -/
inductive Obstacle
  | tooDeep
  | longNumber
  deriving DecidableEq

def Obstacle.message : Obstacle → Text
  | .tooDeep => lit "maximum recursion depth exceeded while getting the repr of an object"
  | .longNumber => Decimal.tooManyDigits none

/-- What keeps a part of a value from being written, if there is room for some levels below the value. -/
def obstacleAt? (room : Nat) (part : Nat × Datum) : Option Obstacle :=
  if room < part.1 then some .tooDeep else if part.2.isLong then some .longNumber else none
/-- The first obstacle that writing a value comes to, if there is room for some levels below it. -/
def obstacle? (room : Nat) (value : Datum) : Option Obstacle := (value.parts 0).findSome? (obstacleAt? room)

def typeName : Datum → Text
  | .null => lit "NoneType"
  | .bool _ => lit "bool"
  | .int _ => lit "int"
  | .float _ => lit "float"
  | .text _ => lit "str"
  | .bytes _ => lit "bytes"
  | .buffer _ => lit "bytearray"
  | .word _ => lit "int64"
  | .date _ => lit "date"
  | .moment _ => lit "datetime"
  | .list _ | .elided false => lit "list"
  | .tuple _ => lit "tuple"
  | .dict _ | .elided true => lit "dict"
  | .set _ => lit "set"

/-! ### Tests and views -/

/-- What counts as nothing: no value, false, zero, and whatever is empty. -/
def isNothing : Datum → Bool
  | .null => true
  | .bool value => !value
  | .int value | .word value => value = 0
  | .float value => value == 0.0
  | .text value => value.isEmpty
  | .bytes value | .buffer value => value.isEmpty
  | .date _ | .moment _ | .elided _ => false
  | .list items | .tuple items | .set items => items.isEmpty
  | .dict entries => entries.isEmpty

def isNull : Datum → Bool
  | .null => true
  | _ => false

/-- The value of a whole number; a truth value is none. -/
def whole? : Datum → Option Int
  | .int value | .word value => some value
  | _ => none

/-- The value of a number as a double; truth values count as zero and one. -/
def real? : Datum → Option Float
  | .bool value => some (if value then 1.0 else 0.0)
  | .int value | .word value => some (Float.ofInt value)
  | .float value => some value
  | _ => none

/-! ### Mappings and sets -/

/-- The value of a number as a key, `m · 2^q` with odd `m`; numbers of different types with one value are
    one key. -/
def keyNumber? : Datum → Option (Int × Int)
  | .bool value => some (if value then (1,0) else (0,0))
  | .int value | .word value => some (reduce value 0)
  | .float value =>
    match Decimal.Binary.ofBits? value.toBits with
    | some b =>
      let size : Int := b.mantissa
      some (reduce (if value < 0.0 then -size else size) b.exponent)
    | none => if value == 0.0 then some (0,0) else none
  | _ => none
where
  /-- Moves factors of two from the number to the exponent. -/
  reduce (m q : Int) : Int × Int :=
    if more : m ≠ 0 ∧ m % 2 = 0 then reduce (m / 2) (q + 1) else if m = 0 then (0,0) else (m,q)
  termination_by m.natAbs
  decreasing_by omega

mutual
/-- Two values are the same key of a mapping. -/
def sameKey : Datum → Datum → Bool
  | .null, .null => true
  | .text a, .text b => a = b
  | .bytes a, .bytes b => a = b
  | .date a, .date b => a = b
  | .moment a, .moment b => a.same b
  | .tuple a, .tuple b => sameKeys a b
  | .float a, .float b => a == b
  | a, b =>
    match keyNumber? a, keyNumber? b with
    | some a, some b => a = b
    | _, _ => false
def sameKeys : List Datum → List Datum → Bool
  | [], [] => true
  | a :: first, b :: second => sameKey a b && sameKeys first second
  | _, _ => false
end

/-- The mapping that arises from entries in order. -/
def ofEntries (entries : List (Datum × Datum)) : Datum := .dict (Entries.ofList sameKey entries)

/-- The number of places of a table for some members: eight for four members at most, and otherwise the least power
    of two above twice their number. -/
def places (count : Nat) : Nat := if count < 5 then 8 else Nat.pow 2 ((2 * count).log2 + 1)
/-- Numbers are placed by their residues for this prime; powers of two have the period 61 for it. -/
def placingPrime : Nat := Nat.pow 2 61 - 1
/-- The place of a number among a number of places; a residue of minus one counts as minus two. -/
def place? (count : Nat) (member : Datum) : Option Int :=
  (keyNumber? member).map fun (m,q) =>
    let size : Int := (m.natAbs * Nat.pow 2 (q % 61).toNat % placingPrime : Nat)
    let residue := if m < 0 then -size else size
    (if residue = -1 then -2 else residue) % count
/-- The members of a set in the order in which it tells them. Numbers have the order of their places in a table,
    other members that in which they were entered. -/
def inSetOrder (members : List Datum) : List Datum :=
  let place := place? (places members.length)
  if members.all fun m => (place m).isSome then members.mergeSort fun a b => (place a).getD 0 ≤ (place b).getD 0
  else members

def isText (text : Text) : Datum → Bool
  | .text value => value = text
  | _ => false
/-- The value under a key that is a text. -/
def field? (entries : List (Datum × Datum)) (key : Text) : Option Datum :=
  (entries.find? fun (present,_) => present.isText key).map (·.2)

end Datum

end TapeArena
