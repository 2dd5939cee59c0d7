import Mathlib.Data.Int.ModEq
import TapeArena.Exercise
import TapeArena.Proofs.Traversals

/-!
How a value spells bytes: as a text of their code points, as a sequence of whole numbers that are congruent to them, or
as nothing at all (`Spells`). Reading gives exactly the bytes that are spelled, and of a value that spells none it tells
why (`Misspells`, `decides_readBytes`).
-/
namespace TapeArena

/-! ### Texts -/

theorem CodePoint.byte?_eq_some_iff {c : CodePoint} {byte : UInt8} : c.byte? = some byte ↔ c = ofByte byte := by
  constructor
  · intro read
    by_cases small : c.val < 256
    · rw [byte?,if_pos small,Option.some.injEq,UInt8.ofNat_eq_iff_mod_eq_toNat,Nat.mod_eq_of_lt small] at read
      exact Fin.ext read
    · rw [byte?,if_neg small] at read
      cases read
  · rintro rfl
    exact byte?_ofByte byte

theorem Text.latin?_eq_some_iff {text : Text} {bytes : Bytes} : text.latin? = some bytes ↔ text = ofBytes bytes := by
  constructor
  · intro read
    induction text generalizing bytes with
    | nil =>
      cases read
      rfl
    | cons c rest ih =>
      rw [latin?,List.mapM_cons] at read
      obtain ⟨byte,head,read⟩ := Option.bind_eq_some_iff.mp read
      obtain ⟨more,tail,read⟩ := Option.bind_eq_some_iff.mp read
      cases read
      rw [CodePoint.byte?_eq_some_iff.mp head,ih tail]
      rfl
  · rintro rfl
    exact latin?_ofBytes bytes

/-- A text has no bytes if and only if one of its code points is above U+00FF. -/
theorem Text.latin?_eq_none_iff {text : Text} : text.latin? = none ↔ ∃ c ∈ text, 256 ≤ c.val := by
  constructor
  · intro unread
    induction text with
    | nil => cases unread
    | cons c rest ih =>
      by_cases small : c.val < 256
      -- a code point that has a byte leaves the fault to those behind it
      · have head : c.byte? = some (UInt8.ofNat c.val) := if_pos small
        have tail : latin? rest = none := by
          cases read : latin? rest with
          | none => rfl
          | some bytes =>
            have whole : latin? (c :: rest) = some (UInt8.ofNat c.val :: bytes) := by
              rw [latin?_eq_some_iff,CodePoint.byte?_eq_some_iff.mp head,latin?_eq_some_iff.mp read]
              simp [ofBytes,CodePoint.ofByte]
            rw [whole] at unread
            cases unread
        obtain ⟨other,member,large⟩ := ih tail
        exact ⟨other,List.mem_cons_of_mem c member,large⟩
      · exact ⟨c,List.mem_cons_self,not_lt.mp small⟩
  · rintro ⟨c,member,large⟩
    cases read : text.latin? with
    | none => rfl
    | some bytes =>
      rw [latin?_eq_some_iff.mp read] at member
      obtain ⟨byte,-,rfl⟩ := List.mem_map.mp member
      exact absurd large (not_le.mpr byte.toNat_lt)

namespace Exercise
open Traversal

/-! ### Bytes -/

/-- A whole number stands for the byte that it is congruent to. -/
inductive IsByte : Datum → UInt8 → Prop
  | int {value : Int} {byte : UInt8} (congruent : value ≡ byte.toNat [ZMOD 256]) : IsByte (.int value) byte

/-- A list or a tuple, with its items. -/
inductive IsSequence : Datum → List Datum → Prop
  | list (items : List Datum) : IsSequence (.list items) items
  | tuple (items : List Datum) : IsSequence (.tuple items) items

/-- A value spells bytes. -/
inductive Spells : Datum → Bytes → Prop
  | nothing : Spells .null []
  | text (bytes : Bytes) : Spells (.text (Text.ofBytes bytes)) bytes
  | sequence {value : Datum} {items : List Datum} {bytes : Bytes} (isSequence : IsSequence value items)
    (each : List.Forall₂ IsByte items bytes) : Spells value bytes

/-- Why a value spells no bytes. -/
inductive Misspells : Datum → ExerciseError → Prop
  | text {text : Text} {c : CodePoint} (member : c ∈ text) (large : 256 ≤ c.val) :
    Misspells (.text text) (.beyondLatin text)
  | sequence {value item : Datum} {items : List Datum} (isSequence : IsSequence value items) (member : item ∈ items)
    (notWhole : ∀ value, item ≠ .int value) : Misspells value .notWhole
  | other {value : Datum} (notNull : value ≠ .null) (notText : ∀ text, value ≠ .text text)
    (notSequence : ∀ items, ¬ IsSequence value items) : Misspells value (.notBytes value.typeName)

/-- The byte of a whole number is the only one that is congruent to it. -/
theorem ofNat_emod_eq_iff {value : Int} {byte : UInt8} :
    UInt8.ofNat (value % 256).toNat = byte ↔ value ≡ byte.toNat [ZMOD 256] := by
  have small := byte.toNat_lt
  rw [UInt8.ofNat_eq_iff_mod_eq_toNat,Int.ModEq]
  omega

theorem decides_readByte :
    Decides readByte IsByte fun item error => (∀ value, item ≠ .int value) ∧ error = .notWhole := by
  refine .of_outcomes (fun item => ?_) ?_ ?_
  · cases item with
    | int value => exact .inl ⟨_,rfl,.int (ofNat_emod_eq_iff.mp rfl)⟩
    | _ => exact .inr ⟨_,rfl,nofun,rfl⟩
  · rintro _ byte ⟨congruent⟩
    exact congrArg Except.ok (ofNat_emod_eq_iff.mpr congruent)
  · rintro item _ ⟨notWhole,rfl⟩
    cases item with
    | int value => exact absurd rfl (notWhole value)
    | _ => rfl

/-- All that can be wrong with a sequence is an element that is no whole number. -/
theorem decides_mapM_readByte : Decides (fun items => List.mapM readByte items) (List.Forall₂ IsByte)
    fun items error => (∃ item ∈ items, ∀ value, item ≠ .int value) ∧ error = .notWhole := by
  refine ⟨decides_readByte.mapM.ok_iff,decides_readByte.mapM.error_iff.trans ⟨fun first => ?_,?_⟩⟩
  · obtain ⟨item,member,notWhole,is⟩ := first.exists_mem
    exact ⟨⟨item,member,notWhole⟩,is⟩
  · rintro ⟨⟨item,member,notWhole⟩,rfl⟩
    exact decides_readByte.firstFault_of_mem (fun _ _ => And.right) member ⟨notWhole,rfl⟩

theorem readBytes_of_sequence {value : Datum} {items : List Datum} (isSequence : IsSequence value items) :
    readBytes value = items.mapM readByte := by
  cases isSequence <;> rfl

theorem decides_readBytes : Decides readBytes Spells Misspells := by
  have sequence : ∀ {value items}, IsSequence value items → (∃ bytes, readBytes value = .ok bytes ∧ Spells value bytes) ∨
      ∃ error, readBytes value = .error error ∧ Misspells value error := by
    intro value items isSequence
    rw [readBytes_of_sequence isSequence]
    cases read : items.mapM readByte with
    | ok bytes => exact .inl ⟨bytes,rfl,.sequence isSequence (decides_mapM_readByte.ok_iff.mp read)⟩
    | error error =>
      obtain ⟨⟨item,member,notWhole⟩,rfl⟩ := decides_mapM_readByte.error_iff.mp read
      exact .inr ⟨_,rfl,.sequence isSequence member notWhole⟩
  refine .of_outcomes (fun value => ?_) (fun value bytes spells => ?_) (fun value error misspells => ?_)
  · cases value with
    | null => exact .inl ⟨[],rfl,.nothing⟩
    | text text =>
      rw [readBytes]
      cases latin : text.latin? with
      | some bytes =>
        rw [Text.latin?_eq_some_iff.mp latin]
        exact .inl ⟨bytes,rfl,.text bytes⟩
      | none =>
        obtain ⟨c,member,large⟩ := Text.latin?_eq_none_iff.mp latin
        exact .inr ⟨_,rfl,.text member large⟩
    | list items => exact sequence (.list items)
    | tuple items => exact sequence (.tuple items)
    | _ => exact .inr ⟨_,rfl,.other nofun nofun nofun⟩
  · cases spells with
    | nothing => rfl
    | text => simp only [readBytes,Text.latin?_ofBytes]
    | sequence isSequence each =>
      rw [readBytes_of_sequence isSequence]
      exact decides_mapM_readByte.ok_iff.mpr each
  · cases misspells with
    | text member large => simp only [readBytes,Text.latin?_eq_none_iff.mpr ⟨_,member,large⟩]
    | sequence isSequence member notWhole =>
      rw [readBytes_of_sequence isSequence]
      exact decides_mapM_readByte.error_iff.mpr ⟨⟨_,member,notWhole⟩,rfl⟩
    | other notNull notText notSequence =>
      cases value with
      | null => exact absurd rfl notNull
      | text text => exact absurd rfl (notText text)
      | list items => exact absurd (.list items) (notSequence items)
      | tuple items => exact absurd (.tuple items) (notSequence items)
      | _ => rfl

end Exercise

end TapeArena
