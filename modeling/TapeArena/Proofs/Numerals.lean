import Mathlib.Data.List.TakeWhile
import Mathlib.Data.Nat.Digits.Defs
import TapeArena.Decimal.Reading

/-!
Whole numbers in writing: blanks around them, a sign if there is one, and digits of any script with single underscores
between them, not too many (`Decimal.Writes`). Reading gives exactly the number that is written, in positional notation,
and reads nothing else (`Decimal.int?_eq_some_iff`). Among these are the renderings of natural numbers that any reader
would expect (`Decimal.Renders.writes`).
-/
namespace TapeArena

theorem CodePoint.is_iff {c : CodePoint} {char : Char} : c.is char ↔ c = ofChar char := by
  rw [is,decide_eq_true_eq]
  exact ⟨fun same => Fin.ext same,fun same => congrArg Fin.val same⟩

/-! ### Trimmed texts -/

namespace Text
variable {drop : CodePoint → Bool} {before core behind text : Text}

theorem trimEnd_append (dropped : ∀ c ∈ behind, drop c) (kept : trimEnd drop core = core) :
    trimEnd drop (core ++ behind) = core := by
  have keptToo : core.reverse.dropWhile drop = core.reverse := List.reverse_eq_iff.mp kept
  have droppedToo : ∀ c ∈ behind.reverse, drop c := fun c member => dropped c (List.mem_reverse.mp member)
  rw [trimEnd,List.reverse_append,List.dropWhile_append_of_pos droppedToo,keptToo,List.reverse_reverse]

/-- What stands between characters that are dropped, and neither begins nor ends with one, is what is left. -/
theorem trim_append (droppedBefore : ∀ c ∈ before, drop c) (droppedBehind : ∀ c ∈ behind, drop c)
    (nonempty : core ≠ []) (begins : core.dropWhile drop = core) (ends : trimEnd drop core = core) :
    trim drop (before ++ core ++ behind) = core := by
  have notEmpty : ¬ (core.dropWhile drop).isEmpty := by rwa [begins,List.isEmpty_iff]
  rw [trim,List.append_assoc,List.dropWhile_append_of_pos droppedBefore,List.dropWhile_append,if_neg notEmpty,begins]
  exact trimEnd_append droppedBehind ends

theorem exists_trimEnd (drop : CodePoint → Bool) (text : Text) :
    ∃ behind, text = trimEnd drop text ++ behind ∧ ∀ c ∈ behind, drop c := by
  refine ⟨(text.reverse.takeWhile drop).reverse,?_,fun c member => List.mem_takeWhile_imp (List.mem_reverse.mp member)⟩
  rw [trimEnd,← List.reverse_append,List.takeWhile_append_dropWhile,List.reverse_reverse]

/-- Only characters that are dropped are missing at the two ends. -/
theorem exists_trim (drop : CodePoint → Bool) (text : Text) : ∃ before behind,
    text = before ++ trim drop text ++ behind ∧ (∀ c ∈ before, drop c) ∧ ∀ c ∈ behind, drop c := by
  obtain ⟨behind,split,dropped⟩ := exists_trimEnd drop (text.dropWhile drop)
  refine ⟨text.takeWhile drop,behind,?_,fun c => List.mem_takeWhile_imp,dropped⟩
  rw [trim,List.append_assoc,← split,List.takeWhile_append_dropWhile]

theorem trim_eq_nil_iff : trim drop text = [] ↔ ∀ c ∈ text, drop c := by
  constructor
  · intro empty c member
    obtain ⟨before,behind,split,droppedBefore,droppedBehind⟩ := exists_trim drop text
    rw [split,empty,List.append_nil] at member
    exact (List.mem_append.mp member).elim (droppedBefore c) (droppedBehind c)
  · intro dropped
    rw [trim,List.dropWhile_eq_nil_iff.mpr dropped]
    rfl

end Text

namespace Decimal
variable {c : CodePoint} {digit : Nat} {text body : Text} {digits : List Nat}

/-! ### Digits -/

/-- A code point is a decimal digit: it stands so far behind the zero of a script. -/
inductive IsDigit (c : CodePoint) (digit : Nat) : Prop
  | mk {nought : Nat} (ofScript : nought ∈ DecimalDigit.zeros) (small : digit < 10) (place : c.val = nought + digit)

/-- No two scripts share a digit. -/
theorem zeros_apart : ∀ one ∈ DecimalDigit.zeros, ∀ other ∈ DecimalDigit.zeros,
    one = other ∨ one + 10 ≤ other ∨ other + 10 ≤ one := by
  decide +kernel

theorem digit?_eq_some_iff : c.digit? = some digit ↔ IsDigit c digit := by
  rw [CodePoint.digit?,Option.map_eq_some_iff]
  constructor
  · rintro ⟨nought,found,rfl⟩
    have inRow := List.find?_some found
    simp only [Bool.and_eq_true,decide_eq_true_eq] at inRow
    exact .mk (List.mem_of_find?_eq_some found) (by omega) (by omega)
  · rintro ⟨ofScript,small,place⟩
    rename_i nought
    cases found : DecimalDigit.zeros.find? fun nought => nought ≤ c.val && c.val < nought + 10 with
    | none =>
      have outside := List.find?_eq_none.mp found nought ofScript
      simp only [Bool.and_eq_true,decide_eq_true_eq] at outside
      omega
    | some first =>
      -- the script that is found first is the only one
      have inRow := List.find?_some found
      simp only [Bool.and_eq_true,decide_eq_true_eq] at inRow
      have same := zeros_apart first (List.mem_of_find?_eq_some found) nought ofScript
      exact ⟨first,rfl,by omega⟩

/-- Digits are neither blanks nor signs nor underscores. -/
theorem rows_plain : ∀ nought ∈ DecimalDigit.zeros, ∀ digit < 10, (CodePoint.ofNat? (nought + digit)).all
    fun c => !c.isBlank && !c.is '_' && !c.is '+' && !c.is '-' := by
  decide +kernel

namespace IsDigit
variable (isDigit : IsDigit c digit)
include isDigit

theorem plain : ¬ c.isBlank ∧ ¬ c.is '_' ∧ ¬ c.is '+' ∧ ¬ c.is '-' := by
  obtain ⟨ofScript,small,place⟩ := isDigit
  have row := rows_plain _ ofScript digit small
  have self : CodePoint.ofNat? c.val = some c := dif_pos c.isLt
  rw [← place,self,Option.all_some] at row
  simpa [and_assoc] using row

theorem not_isOuter : isOuter c = false := by
  have notBlank := isDigit.plain.1
  have notNarrow : ¬ c.isNarrowBlank := mt Text.isBlank_of_isNarrowBlank notBlank
  simp [isOuter,notBlank,notNarrow]

end IsDigit

/-- Digits of any script, the next one right behind the one before or apart from it by an underscore. -/
inductive Grouped : Text → List Nat → Prop
  | last {c : CodePoint} {digit : Nat} (isDigit : IsDigit c digit) : Grouped [c] [digit]
  | next {c : CodePoint} {digit : Nat} {rest : Text} {digits : List Nat} (isDigit : IsDigit c digit)
    (behind : Grouped rest digits) : Grouped (c :: rest) (digit :: digits)
  | apart {c : CodePoint} {digit : Nat} {rest : Text} {digits : List Nat} (isDigit : IsDigit c digit)
    (behind : Grouped rest digits) : Grouped (c :: .ofChar '_' :: rest) (digit :: digits)

namespace Grouped
variable (grouped : Grouped body digits)
include grouped

theorem exists_cons : ∃ c digit rest, body = c :: rest ∧ IsDigit c digit := by
  cases grouped with
  | last isDigit | next isDigit _ | apart isDigit _ => exact ⟨_,_,_,rfl,isDigit⟩
theorem exists_concat : ∃ before c digit, body = before ++ [c] ∧ IsDigit c digit := by
  induction grouped with
  | last isDigit => exact ⟨[],_,_,rfl,isDigit⟩
  | next _ _ ih =>
    obtain ⟨before,c,digit,rfl,isDigit⟩ := ih
    exact ⟨_ :: before,c,digit,rfl,isDigit⟩
  | apart _ _ ih =>
    obtain ⟨before,c,digit,rfl,isDigit⟩ := ih
    exact ⟨_ :: _ :: before,c,digit,rfl,isDigit⟩

theorem digits?_eq : digits? body = some digits := by
  induction grouped with
  | last isDigit => simp [digits?,digit?_eq_some_iff.mpr isDigit]
  | next isDigit behind ih =>
    obtain ⟨d,_,more,rfl,headIsDigit⟩ := behind.exists_cons
    simp [digits?,digit?_eq_some_iff.mpr isDigit,headIsDigit.plain.2.1,ih]
  | apart isDigit behind ih =>
    simp [digits?,digit?_eq_some_iff.mpr isDigit,CodePoint.is_iff.mpr rfl,ih]

end Grouped

theorem digits?_eq_some_iff : digits? body = some digits ↔ Grouped body digits := by
  refine ⟨fun read => ?_,Grouped.digits?_eq⟩
  induction body using digits?.induct generalizing digits with
  | case1 => cases read
  | case2 c rest noDigit => simp [digits?,noDigit] at read
  | case3 c digit isDigit =>
    simp only [digits?,isDigit,Option.some.injEq] at read
    exact read ▸ .last (digit?_eq_some_iff.mp isDigit)
  | case4 c digit d more isDigit ihApart ihNext =>
    rw [digits?.eq_def] at read
    simp only [isDigit,Option.map_eq_some_iff] at read
    obtain ⟨later,read,rfl⟩ := read
    by_cases underscore : d.is '_'
    · rw [if_pos underscore] at read
      rw [CodePoint.is_iff.mp underscore]
      exact .apart (digit?_eq_some_iff.mp isDigit) (ihApart read)
    · rw [if_neg underscore] at read
      exact .next (digit?_eq_some_iff.mp isDigit) (ihNext read)

/-! ### Whole numbers -/

/-- The value of digits in positional notation, the first one being the highest. -/
def value (digits : List Nat) : Nat := Nat.ofDigits 10 digits.reverse

theorem foldl_push (digits : List Nat) : digits.foldl push 0 = value digits := by
  rw [value,Nat.ofDigits_eq_foldr,List.foldr_reverse]
  exact congrArg (digits.foldl · 0) (funext₂ fun n digit => Nat.add_comm (10 * n) digit)

/-- What may stand in front of the digits, and whether it makes the number negative. -/
inductive IsSign : Text → Bool → Prop
  | none : IsSign [] false
  | plus : IsSign (lit "+") false
  | minus : IsSign (lit "-") true

theorem IsSign.sign_eq {signed : Text} {negative : Bool} (isSign : IsSign signed negative)
    (grouped : Grouped body digits) : sign (signed ++ body) = (negative,body) := by
  obtain ⟨c,digit,rest,rfl,isDigit⟩ := grouped.exists_cons
  obtain ⟨-,-,notPlus,notMinus⟩ := isDigit.plain
  cases isSign with
  | none => simp [sign,notPlus,notMinus]
  | plus => rfl
  | minus => rfl

theorem exists_isSign (text : Text) : ∃ signed, IsSign signed (sign text).1 ∧ text = signed ++ (sign text).2 := by
  cases text with
  | nil => exact ⟨[],.none,rfl⟩
  | cons c rest =>
    rw [sign]
    split
    · rename_i minus
      exact ⟨lit "-",.minus,congrArg (· :: rest) (CodePoint.is_iff.mp minus)⟩
    · split
      · rename_i plus
        exact ⟨lit "+",.plus,congrArg (· :: rest) (CodePoint.is_iff.mp plus)⟩
      · exact ⟨[],.none,rfl⟩

/-- A text is a whole number in writing. -/
inductive Writes : Text → Int → Prop
  | mk {before signed body behind : Text} {negative : Bool} {digits : List Nat} (blankBefore : ∀ c ∈ before, isOuter c)
    (isSign : IsSign signed negative) (grouped : Grouped body digits) (few : digits.length ≤ mostDigits)
    (blankBehind : ∀ c ∈ behind, isOuter c) :
    Writes (before ++ (signed ++ body) ++ behind) (if negative then -(value digits : Int) else value digits)

/-- Neither a sign nor a digit is trimmed. -/
theorem trim_signed {before signed behind : Text} {negative : Bool} (blankBefore : ∀ c ∈ before, isOuter c)
    (isSign : IsSign signed negative) (grouped : Grouped body digits) (blankBehind : ∀ c ∈ behind, isOuter c) :
    Text.trim isOuter (before ++ (signed ++ body) ++ behind) = signed ++ body := by
  obtain ⟨first,_,rest,isFirst,firstIsDigit⟩ := grouped.exists_cons
  obtain ⟨more,last,_,isLast,lastIsDigit⟩ := grouped.exists_concat
  apply Text.trim_append blankBefore blankBehind
  · rw [isFirst]
    exact List.append_ne_nil_of_right_ne_nil _ (List.cons_ne_nil _ _)
  · rw [isFirst]
    cases isSign with
    | none => exact List.dropWhile_cons_of_neg (ne_true_of_eq_false firstIsDigit.not_isOuter)
    | plus | minus => rfl
  · rw [isLast,← List.append_assoc,Text.trimEnd,List.reverse_concat,
      List.dropWhile_cons_of_neg (ne_true_of_eq_false lastIsDigit.not_isOuter),← List.reverse_concat,List.reverse_reverse]

theorem int?_eq_some_iff {n : Int} : int? text = some n ↔ Writes text n := by
  constructor
  · intro read
    obtain ⟨before,behind,split,blankBefore,blankBehind⟩ := Text.exists_trim isOuter text
    obtain ⟨signed,isSign,signedSplit⟩ := exists_isSign (text.trim isOuter)
    rw [int?,Option.bind_eq_bind,Option.bind_eq_some_iff] at read
    obtain ⟨digits,grouped,read⟩ := read
    by_cases few : digits.length ≤ mostDigits
    · rw [if_pos few,foldl_push] at read
      cases read
      have writes := Writes.mk blankBefore isSign (digits?_eq_some_iff.mp grouped) few blankBehind
      rwa [← signedSplit,← split] at writes
    · rw [if_neg few] at read
      cases read
  · rintro ⟨blankBefore,isSign,grouped,few,blankBehind⟩
    rw [int?,trim_signed blankBefore isSign grouped blankBehind,isSign.sign_eq grouped]
    simp only [digits?_eq_some_iff.mpr grouped,Option.bind_eq_bind,Option.bind_some,if_pos few,foldl_push]
    rfl

/-- A number in writing is not blank. -/
theorem Writes.not_blank {n : Int} (writes : Writes text n) : ∃ c ∈ text, ¬ c.isBlank := by
  obtain ⟨-,-,grouped,-,-⟩ := writes
  obtain ⟨c,digit,rest,rfl,isDigit⟩ := grouped.exists_cons
  exact ⟨c,by simp,isDigit.plain.1⟩

/-! ### Natural numbers -/

/-- A rendering of a natural number: spaces and tabs around it, a plus sign or none, and digits of any script with
    single underscores between them. Zeros may lead, as long as there are not too many digits. -/
inductive Renders (n : Nat) : Text → Prop
  | mk {before plus body behind : Text} {digits : List Nat} (spacesBefore : ∀ c ∈ before, c.is ' ' ∨ c.is '\t')
    (mayPlus : plus = [] ∨ plus = lit "+") (grouped : Grouped body digits) (few : digits.length ≤ mostDigits)
    (valueIs : value digits = n) (spacesBehind : ∀ c ∈ behind, c.is ' ' ∨ c.is '\t') :
    Renders n (before ++ (plus ++ body) ++ behind)

theorem isOuter_of_space (space : c.is ' ' ∨ c.is '\t') : isOuter c := by
  have narrow : c.isNarrowBlank := by
    simp only [CodePoint.is,decide_eq_true_eq] at space
    rcases space with isSpace | isTab
    · simp [CodePoint.isNarrowBlank,isSpace]
    · simp [CodePoint.isNarrowBlank,isTab]
  simp [isOuter,narrow]

theorem Renders.writes {n : Nat} (renders : Renders n text) : Writes text n := by
  obtain ⟨spacesBefore,mayPlus,grouped,few,rfl,spacesBehind⟩ := renders
  rename_i plus _ _ _
  have isSign : IsSign plus false := by
    rcases mayPlus with rfl | rfl
    · exact .none
    · exact .plus
  exact .mk (fun c member => isOuter_of_space (spacesBefore c member)) isSign grouped few
    fun c member => isOuter_of_space (spacesBehind c member)

end Decimal

end TapeArena
