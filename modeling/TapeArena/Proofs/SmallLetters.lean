import TapeArena.Proofs.Numerals
import TapeArena.Text.Casing

/-!
Words of small Latin letters. Beyond the Latin capitals only the Kelvin sign has a small letter that is a Latin one, the
letter k. So for a word without that letter it makes no difference whether a text is put into small letters of all
scripts or only its Latin capitals are replaced (`Text.lower_eq_iff`).
-/
namespace TapeArena

namespace CodePoint
variable {c : CodePoint}

/-- A character of the Latin script and its signs, but for the letter k. -/
def IsPlain (c : CodePoint) : Prop := c.val < 128 ∧ c.val ≠ 0x6B

instance : DecidablePred IsPlain := fun c => inferInstanceAs (Decidable (c.val < 128 ∧ c.val ≠ 0x6B))

theorem lower_of_le (beyond : 128 ≤ c.val) : c.lower = c := by
  rw [lower,dif_neg]
  omega

/-- Below U+0080 only the Latin capitals have small letters. -/
theorem small?_latin : ∀ n, (small : n < 128) →
    (small? ⟨n,Nat.lt_trans small (by decide)⟩).getD ⟨n,Nat.lt_trans small (by decide)⟩ =
      lower ⟨n,Nat.lt_trans small (by decide)⟩ := by
  decide +kernel

/-- A run of letters that lies beyond U+007F leads to letters there, but for the Kelvin sign. -/
theorem runs_beyond : ∀ run ∈ Casing.runs,
    run.last < 128 ∨ 128 ≤ run.small ∨ run.first = run.last ∧ run.small = 0x6B := by
  decide +kernel

theorem not_isPlain_small (beyond : 128 ≤ c.val) : ¬ ((small? c).getD c).IsPlain := by
  cases found : small? c with
  | none =>
    rintro ⟨below,-⟩
    exact absurd beyond (not_le.mpr below)
  | some d =>
    rw [small?,Option.bind_eq_some_iff] at found
    obtain ⟨run,found,isSmall⟩ := found
    have inRun := List.find?_some found
    simp only [Bool.and_eq_true,decide_eq_true_eq] at inRun
    rw [ofNat?,Option.dite_none_right_eq_some] at isSmall
    obtain ⟨bound,isSmall⟩ := isSmall
    have valueIs : run.small + (c.val - run.first) = d.val := congrArg Fin.val (Option.some.inj isSmall)
    rintro ⟨below,notK⟩
    rw [Option.getD_some] at below notK
    rcases runs_beyond run (List.mem_of_find?_eq_some found) with short | far | ⟨single,isK⟩ <;> omega

end CodePoint

namespace Text
open CodePoint
variable {word text before behind : Text} {c : CodePoint}

theorem lowerOne_latin (small : c.val < 128) (before behind : Text) : lowerOne before c behind = [c.lower] := by
  have notSigma : ¬ c.is 'Σ' := by
    rw [is_iff]
    rintro rfl
    exact absurd small (by decide)
  have notDotted : ¬ c.is 'İ' := by
    rw [is_iff]
    rintro rfl
    exact absurd small (by decide)
  rw [lowerOne,if_neg notSigma,if_neg notDotted]
  exact congrArg (fun d => [d]) (small?_latin c.val small)

/-- What comes of a character beyond U+007F is not plain. -/
theorem exists_lowerOne (beyond : 128 ≤ c.val) (before behind : Text) : ∃ d ∈ lowerOne before c behind, ¬ d.IsPlain := by
  rw [lowerOne]
  split
  · split
    · exact ⟨.ofChar 'ς',List.mem_cons_self,by decide⟩
    · exact ⟨.ofChar 'σ',List.mem_cons_self,by decide⟩
  · split
    · exact ⟨.ofChar '\u0307',by decide,by decide⟩
    · exact ⟨_,List.mem_cons_self,not_isPlain_small beyond⟩

theorem lowerFrom_eq_iff (plain : ∀ d ∈ word, d.IsPlain) (before : Text) :
    lowerFrom before text = word ↔ text.map CodePoint.lower = word := by
  induction text generalizing before word with
  | nil => rfl
  | cons c behind ih =>
    rw [lowerFrom,List.map_cons]
    by_cases small : c.val < 128
    · rw [lowerOne_latin small]
      cases word with
      | nil => exact iff_of_false (List.cons_ne_nil _ _) (List.cons_ne_nil _ _)
      | cons d word =>
        have later := ih (fun d member => plain d (List.mem_cons_of_mem _ member)) (c :: before)
        rw [List.singleton_append,List.cons.injEq,List.cons.injEq,later]
    · -- on both sides there is a character that the word does not have
      have beyond : 128 ≤ c.val := not_lt.mp small
      constructor
      · rintro rfl
        obtain ⟨d,member,notPlain⟩ := exists_lowerOne beyond before behind
        exact absurd (plain d (List.mem_append_left _ member)) notPlain
      · rintro rfl
        have isPlain := plain _ List.mem_cons_self
        rw [lower_of_le beyond] at isPlain
        exact absurd isPlain.1 small

/-- A text in small letters is a plain word if and only if it is one once its Latin capitals are replaced. -/
theorem lower_eq_iff (plain : ∀ d ∈ word, d.IsPlain) : text.lower = word ↔ text.map CodePoint.lower = word :=
  lowerFrom_eq_iff plain []

theorem lower_mem_iff {words : List Text} (plain : ∀ word ∈ words, ∀ d ∈ word, d.IsPlain) :
    text.lower ∈ words ↔ text.map CodePoint.lower ∈ words := by
  constructor
  · intro member
    rwa [(lower_eq_iff (plain _ member)).mp rfl]
  · intro member
    rwa [(lower_eq_iff (plain _ member)).mpr rfl]

end Text

end TapeArena
