import TapeArena.Text.Basic

/-!
Bytes written in base sixty-four. Four digits of six bits give three bytes; where the last group has fewer
digits, equals signs fill it up and end the text. Other characters are passed over.
-/
namespace TapeArena.Base64

/-- The value of a digit: the Latin letters, capitals first, the Latin digits, the plus sign and the slash. -/
def digit? (c : CodePoint) : Option Nat :=
  if 0x41 ≤ c.val ∧ c.val ≤ 0x5A then some (c.val - 0x41)
  else if 0x61 ≤ c.val ∧ c.val ≤ 0x7A then some (c.val - 0x61 + 26)
  else if 0x30 ≤ c.val ∧ c.val ≤ 0x39 then some (c.val - 0x30 + 52)
  else if c.is '+' then some 62
  else if c.is '/' then some 63
  else none

/-- A group that is being read: the number of its digits, the bits that belong to no byte yet, and the number of
    equals signs since its last digit. -/
structure Group where
  size : Nat
  bits : Nat
  fills : Nat

/-- Reads on within a group. Equals signs count only behind the second digit. -/
def decodeFrom (group : Group) : Text → Option Bytes
  | [] => if group.size = 0 then some [] else none
  | c :: rest =>
    if c.is '=' then
      if group.size < 2 then decodeFrom group rest
      else if 4 ≤ group.size + group.fills + 1 then some []
      else decodeFrom { group with fills := group.fills + 1 } rest
    else
      match digit? c with
      | none => decodeFrom group rest
      | some digit =>
        let bits := 64 * group.bits + digit
        if group.size = 0 then decodeFrom ⟨1,bits,0⟩ rest
        else
          let unit := Nat.pow 4 (3 - group.size)
          (decodeFrom ⟨(group.size + 1) % 4,bits % unit,0⟩ rest).map (UInt8.ofNat (bits / unit) :: ·)

/-- The bytes that a text of ASCII characters stands for, unless its last group is not full. -/
def decode? (text : Text) : Option Bytes :=
  if text.all (·.val < 0x80) then decodeFrom ⟨0,0,0⟩ text else none

/-- Three bytes, and one byte in a group that is filled up. -/
example : decode? (lit "YWJjZA==") = some [0x61,0x62,0x63,0x64] := by decide +kernel
/-- A digit alone is no byte. -/
example : decode? (lit "Y===") = none := by decide +kernel

end TapeArena.Base64
