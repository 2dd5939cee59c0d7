import TapeArena.Proofs.Channels
import TapeArena.Proofs.Grammar

/-!
Text as input. A text is fed as every second byte of its UTF-16 code units, the low byte of each coming first
(`Text.lowBytes_eq_everySecond`). So every code point is fed by itself: as one byte, or beyond U+FFFF as two
(`Text.toNat_lowBytes`), which are those of its two surrogates (`CodePoint.Surrogates.units_eq`). A text that spells
bytes is fed as these bytes, so that every program does the same on the text and on the bytes (`Source.feed_text`).
-/
namespace TapeArena

/-! ### Code points -/

/-- The numbers of the bytes that a code point is fed as. -/
def CodePoint.fed (c : CodePoint) : List Nat :=
  if c.val < 0x10000 then [c.val % 256] else [(c.val - 0x10000) / 1024 % 256,c.val % 256]

/-- Two code points are the high and the low surrogate that stand for a code point beyond U+FFFF. -/
structure CodePoint.Surrogates (c high low : CodePoint) : Prop where
  high_mem : 0xD800 ≤ high.val ∧ high.val < 0xDC00
  low_mem : 0xDC00 ≤ low.val ∧ low.val < 0xE000
  stands : c.val = 0x10000 + (high.val - 0xD800) * 1024 + (low.val - 0xDC00)

namespace CodePoint
variable {c high low : CodePoint}

theorem exists_surrogates (beyond : 0x10000 ≤ c.val) : ∃ high low, Surrogates c high low := by
  have bound := c.isLt
  refine ⟨⟨0xD800 + (c.val - 0x10000) / 1024,by omega⟩,⟨0xDC00 + (c.val - 0x10000) % 1024,by omega⟩,?_,?_,?_⟩
  · show 0xD800 ≤ 0xD800 + _ ∧ 0xD800 + _ < 0xDC00
    omega
  · show 0xDC00 ≤ 0xDC00 + _ ∧ 0xDC00 + _ < 0xE000
    omega
  · show c.val = 0x10000 + (0xD800 + _ - 0xD800) * 1024 + (0xDC00 + _ - 0xDC00)
    omega

theorem units_of_lt (within : c.val < 0x10000) : c.units = [c.val] := if_pos within

/-- A code point beyond U+FFFF has the code units of its two surrogates. -/
theorem Surrogates.units_eq (surrogates : Surrogates c high low) : c.units = high.units ++ low.units := by
  obtain ⟨⟨fromHigh,toHigh⟩,⟨fromLow,toLow⟩,stands⟩ := surrogates
  have beyond : ¬ c.val < 0x10000 := by omega
  have highUnit : 0xD800 + (c.val - 0x10000) / 1024 = high.val := by omega
  have lowUnit : 0xDC00 + (c.val - 0x10000) % 1024 = low.val := by omega
  rw [units_of_lt (by omega : high.val < 0x10000),units_of_lt (by omega : low.val < 0x10000),units,if_neg beyond,
    highUnit,lowUnit]
  rfl

/-- The offsets of the surrogates are multiples of 256, so the low bytes are those of the plain quotient and of the
    code point itself. -/
theorem units_mod (c : CodePoint) : c.units.map (· % 256) = c.fed := by
  unfold units fed
  split
  · rfl
  · simp only [List.map_cons,List.map_nil,List.cons.injEq,and_true]
    omega

end CodePoint

/-! ### Texts -/

/-- Every second byte, from the first one on. -/
def Bytes.everySecond : Bytes → Bytes
  | [] => []
  | [last] => [last]
  | first :: _ :: rest => first :: everySecond rest

namespace Text

/-- A text in UTF-16, the low byte of each code unit before the high one. -/
def utf16 (text : Text) : Bytes := text.units.flatMap fun unit => [UInt8.ofNat unit,UInt8.ofNat (unit / 256)]

theorem lowBytes_eq_everySecond (text : Text) : text.lowBytes = Bytes.everySecond text.utf16 := by
  unfold lowBytes utf16
  induction text.units with
  | nil => rfl
  | cons unit rest ih =>
    rw [List.map_cons,ih,List.flatMap_cons]
    rfl

theorem toNat_lowBytes (text : Text) : text.lowBytes.map UInt8.toNat = text.flatMap CodePoint.fed := by
  rw [lowBytes,units,List.map_map,List.map_flatMap]
  refine congrArg (text.flatMap ·) (funext fun c => ?_)
  rw [← CodePoint.units_mod]
  rfl

theorem lowBytes_surrogates {c high low : CodePoint} (surrogates : CodePoint.Surrogates c high low)
    (before behind : Text) : lowBytes (before ++ c :: behind) = lowBytes (before ++ high :: low :: behind) := by
  simp [lowBytes,units,surrogates.units_eq]

end Text

/-! ### Texts in exercises -/

/-- A text is made of bytes if and only if none of its code points is above U+00FF. -/
theorem Text.exists_ofBytes_iff {text : Text} : (∃ bytes, text = ofBytes bytes) ↔ ∀ c ∈ text, c.val ≤ 255 := by
  constructor
  · rintro ⟨bytes,rfl⟩ c member
    obtain ⟨byte,-,rfl⟩ := List.mem_map.mp member
    exact Nat.le_of_lt_succ byte.toNat_lt
  · intro small
    cases read : text.latin? with
    | some bytes => exact ⟨bytes,latin?_eq_some_iff.mp read⟩
    | none =>
      obtain ⟨c,member,large⟩ := latin?_eq_none_iff.mp read
      exact absurd (small c member) (not_le.mpr large)

theorem Exercise.spells_text {text : Text} {bytes : Bytes} : Spells (.text text) bytes ↔ text = Text.ofBytes bytes := by
  constructor
  · intro spells
    cases spells with
    | text => rfl
    | sequence isSequence => cases isSequence
  · rintro rfl
    exact .text bytes

/-- A text that spells bytes is fed as these bytes. -/
theorem Exercise.Spells.lowBytes {text : Text} {bytes : Bytes} (spells : Spells (.text text) bytes) :
    text.lowBytes = bytes := by
  rw [spells_text.mp spells]
  exact (Text.carries_ofBytes bytes).lowBytes

/-! ### Inputs -/

theorem Trial.ofLimits_of_feed {one other : Source} (same : one.feed = other.feed) (limits : Limits) (program : Source) :
    ofLimits limits program one = ofLimits limits program other := by
  rw [ofLimits,ofLimits,same]

namespace Source

/-- Every program does the same on two inputs: in a machine, in a single evaluation, and in a trial. -/
structure Alike (one other : Source) : Prop where
  run : ∀ {σ ε : Type} (machine : Machine) (sink : Sink σ ε) (memory : σ) (program : Program),
    machine.run sink memory program one.feed = machine.run sink memory program other.feed
  evalBytes : ∀ {σ ε : Type} (limits : Limits) (sink : Sink σ ε) (memory : σ) (program : Source),
    evalBytes limits sink memory program one = evalBytes limits sink memory program other
  evalText : ∀ (steps : Nat) (program : Source), evalText steps program one = evalText steps program other
  trial : ∀ (program : Source) (steps output : Datum),
    Trial.run program one steps output = Trial.run program other steps output
  standard : ∀ program : Source, Trial.standard program one = Trial.standard program other

/-- Nothing but the bytes that are fed has any influence. -/
theorem alike_of_feed {one other : Source} (same : one.feed = other.feed) : Alike one other where
  run machine sink memory program := by rw [same]
  evalBytes limits sink memory program := by rw [TapeArena.evalBytes,TapeArena.evalBytes,same]
  evalText steps program := by rw [TapeArena.evalText,TapeArena.evalText,TapeArena.evalBytes,TapeArena.evalBytes,same]
  trial program steps output := by simp only [Trial.run,Trial.ofLimits_of_feed same]
  standard program := by simp only [Trial.standard,Trial.ofLimits_of_feed same]

open Exercise

/-- A text is fed as the low bytes of its UTF-16 code units: code point by code point, one byte for each up to U+FFFF
    and two for each beyond, those of its surrogates. If its code points are bytes it can stand in an exercise, and
    every program does the same on the text and on the bytes that are read from the exercise. -/
theorem feed_text (text : Text) :
    let fed := (Source.text text).feed
    fed = Bytes.everySecond text.utf16 ∧
    fed.map UInt8.toNat = text.flatMap CodePoint.fed ∧
    (∀ more : Text, (Source.text (text ++ more)).feed = fed ++ (Source.text more).feed) ∧
    (∀ c : CodePoint, 0x10000 ≤ c.val → ∃ high low, CodePoint.Surrogates c high low) ∧
    (∀ c high low, CodePoint.Surrogates c high low → ∀ behind : Text,
      (Source.text (text ++ c :: behind)).feed = (Source.text (text ++ high :: low :: behind)).feed) ∧
    ((∃ bytes, readBytes (.text text) = .ok bytes) ↔ ∀ c ∈ text, c.val ≤ 255) ∧
    (∀ bytes, readBytes (.text text) = .ok bytes → fed = bytes ∧ Alike (.text text) (.bytes bytes)) ∧
    ∀ value output shown, Parts value (.text text) output → readExample value = .ok shown →
      fed = shown.input ∧ ∀ program : Source,
        Exercise.run program shown.input = do return (← Trial.standard program (.text text)).output := by
  intro fed
  have alike {bytes : Bytes} (spells : Spells (.text text) bytes) : Alike (.text text) (.bytes bytes) :=
    alike_of_feed spells.lowBytes
  refine ⟨text.lowBytes_eq_everySecond,text.toNat_lowBytes,Text.lowBytes_append text,
    fun c => CodePoint.exists_surrogates,fun c high low surrogates => Text.lowBytes_surrogates surrogates text,
    ?_,?_,?_⟩
  · rw [← Text.exists_ofBytes_iff]
    exact exists_congr fun bytes => decides_readBytes.ok_iff.trans spells_text
  · intro bytes read
    have spells := decides_readBytes.ok_iff.mp read
    exact ⟨spells.lowBytes,alike spells⟩
  · intro value output shown parts read
    rw [readExample_of_parts parts] at read
    obtain ⟨spells,-⟩ := readPair_eq_ok_iff.mp read
    refine ⟨spells.lowBytes,fun program => ?_⟩
    rw [Exercise.run,(alike spells).standard program]

/-- Two Latin letters can stand in an exercise. Behind them and in front of a surrogate without its partner, a face is
    fed as its two surrogates. -/
theorem feed_text_face :
    let letters : Text := [0xE9,0xFF]
    let value : Datum := .list [.text letters,.null]
    CodePoint.Surrogates 0x1F600 0xD83D 0xDE00 ∧ readExample value = .ok ⟨[0xE9,0xFF],[]⟩ ∧
      (Source.text (letters ++ [0x1F600,0xD801])).feed = (Source.text (letters ++ [0xD83D,0xDE00,0xD801])).feed ∧
      (Source.text letters).feed = [0xE9,0xFF] ∧ Alike (.text letters) (.bytes [0xE9,0xFF]) := by
  intro letters value
  have surrogates : CodePoint.Surrogates 0x1F600 0xD83D 0xDE00 := ⟨by decide,by decide,by decide⟩
  have read : readBytes (.text letters) = .ok [0xE9,0xFF] := by decide
  have shown : readExample value = .ok ⟨[0xE9,0xFF],[]⟩ := by decide
  obtain ⟨-,-,-,-,pair,-,same,example_same⟩ := feed_text letters
  exact ⟨surrogates,shown,pair _ _ _ surrogates [0xD801],(example_same _ _ _ (.pair (.list _)) shown).1,(same _ read).2⟩

end Source

end TapeArena
