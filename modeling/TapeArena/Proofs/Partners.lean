import Mathlib.Order.Bounds.Basic
import TapeArena.Proofs.Brackets
import TapeArena.Source

/-!
The jump table of a program. The partner of an opening bracket is the first position behind it up to which as many loops
are closed as opened (`Program.Loop.isLeast`). With every closing bracket as the partner of exactly one opening bracket
this determines the table (`Jumps.Partners.unique`), and the table of every accepted program is like that
(`Jumps.partners_toInts`).
-/
namespace TapeArena

namespace Program
variable {program : Program} {i j k l : Nat}

/-- The commands from one position to another, both included. -/
def segment (program : Program) (i j : Nat) : Program := (program.drop i).take (j + 1 - i)

/-- From one position to a later one, as many loops are opened as closed. -/
def EvenFrom (program : Program) (i j : Nat) : Prop :=
  i < j ∧ opened (program.segment i j) = closed (program.segment i j)

/-! ### Between the brackets of a loop -/

namespace Loop

/-- Up to the end of a loop more loops are opened than closed. -/
theorem closed_lt_opened (loop : Loop program i j) (begun : i ≤ k) (inside : k < j) :
    closed (program.segment i k) < opened (program.segment i k) := by
  obtain ⟨before,body,after,rfl,rfl,rfl,balanced⟩ := loop
  obtain ⟨n,rfl⟩ := Nat.exists_eq_add_of_le begun
  have length : before.length + n + 1 - before.length = n + 1 := by omega
  have part : segment (before ++ .loopOpen :: (body ++ .loopClose :: after)) before.length (before.length + n) =
      .loopOpen :: body.take n := by
    rw [segment,length,List.drop_left,List.take_succ_cons,List.take_append_of_le_length (by omega)]
  have covered := balanced.covered n
  rw [part]
  simp
  omega
/-- At the end of a loop as many loops are closed as opened. -/
theorem even (loop : Loop program i j) : opened (program.segment i j) = closed (program.segment i j) := by
  obtain ⟨before,body,after,rfl,rfl,rfl,balanced⟩ := loop
  have length : before.length + 1 + body.length + 1 - before.length = body.length + 1 + 1 := by omega
  have part : segment (before ++ .loopOpen :: (body ++ .loopClose :: after)) before.length
      (before.length + 1 + body.length) = .loopOpen :: (body ++ [.loopClose]) := by
    rw [segment,length,List.drop_left,List.take_succ_cons,List.take_append,List.take_of_length_le (Nat.le_succ _)]
    simp
  rw [part]
  exact balanced.enclose.even.symm
/-- What is opened inside a loop is closed before its end. -/
theorem opened_le_closed (loop : Loop program i j) (begun : i < k) (inside : k < j) :
    opened (program.segment k (j - 1)) ≤ closed (program.segment k (j - 1)) := by
  obtain ⟨before,body,after,rfl,rfl,rfl,balanced⟩ := loop
  obtain ⟨m,rfl⟩ := Nat.exists_eq_add_of_le begun
  have length : before.length + 1 + body.length - 1 + 1 - (before.length + 1 + m) = body.length - m := by omega
  have front : (before.length + 1 + m - before.length) = m + 1 := by omega
  have part : segment (before ++ .loopOpen :: (body ++ .loopClose :: after)) (before.length + 1 + m)
      (before.length + 1 + body.length - 1) = body.drop m := by
    rw [segment,length,List.drop_append,List.drop_eq_nil_of_le (by omega),List.nil_append,front,List.drop_succ_cons,
      List.drop_append_of_le_length (by omega),List.take_append_of_le_length (by simp),
      List.take_of_length_le (by simp)]
  have whole := balanced.even
  have covered := balanced.covered m
  rw [← List.take_append_drop m body,opened_append,closed_append] at whole
  rw [part]
  omega

/-- A loop ends where as many loops are closed as opened for the first time. -/
theorem isLeast (loop : Loop program i j) : IsLeast {k | program.EvenFrom i k} j := by
  refine ⟨⟨loop.lt,loop.even⟩,?_⟩
  rintro k ⟨behind,even⟩
  by_contra before
  have more := loop.closed_lt_opened (Nat.le_of_lt behind) (Nat.lt_of_not_le before)
  omega

/-- A loop that begins inside another one ends inside it. -/
theorem nested (outer : Loop program i j) (inner : Loop program k l) (begun : i < k) (inside : k < j) : l < j := by
  by_contra beyond
  have notHere : l ≠ j := by
    rintro rfl
    have more := inner.closed_lt_opened (k := l - 1) (by omega) (by omega)
    have fewer := outer.opened_le_closed begun inside
    omega
  have more := inner.closed_lt_opened (k := j - 1) (by omega) (by omega)
  have fewer := outer.opened_le_closed begun inside
  omega

end Loop

end Program

namespace Jumps
open Program
variable {program : Program} {jumps : Jumps} {i j : Nat}

/-! ### Tables of numbers -/

theorem getElem?_toInts (jumps : Jumps) (i : Nat) :
    jumps.toInts[i]? = jumps[i]?.map fun slot => (slot.map Int.ofNat).getD noJump := by
  simp [toInts]
theorem getElem?_toInts_none : jumps.toInts[i]? = some noJump ↔ jumps[i]? = some none := by
  rw [getElem?_toInts]
  rcases jumps[i]? with _ | _ | p
  · simp
  · simp
  · simp [noJump]
theorem getElem?_toInts_some : jumps.toInts[i]? = some (j : Int) ↔ jumps[i]? = some (some j) := by
  rw [getElem?_toInts]
  rcases jumps[i]? with _ | _ | p
  · simp
  · simp [noJump]
  · simp only [Option.map_some,Option.getD_some,Option.some.injEq]
    exact Int.ofNat_inj

/-- A table has one slot for each position of a program. The slots of brackets, and no others, hold a position: that of
    an opening bracket the first one behind it up to which as many loops are opened as closed, where a closing bracket
    stands whose slot leads back. Every closing bracket is the partner of exactly one opening bracket. -/
structure Partners (program : Program) (table : List Int) : Prop where
  length : table.length = program.length
  empty : ∀ i < program.length, table[i]? = some noJump ↔ ¬ program.HasBracket i
  opening : ∀ i : Nat, program[i]? = some .loopOpen → ∃ j : Nat, table[i]? = some (j : Int) ∧
    IsLeast {k | program.EvenFrom i k} j ∧ program[j]? = some .loopClose ∧ table[j]? = some (i : Int)
  closing : ∀ j : Nat, program[j]? = some .loopClose →
    ∃! i : Nat, program[i]? = some .loopOpen ∧ table[i]? = some (j : Int)

namespace Partners
variable {table other : List Int}

/-- The partner of a closing bracket is the opening bracket that it is the partner of. -/
theorem back (partners : Partners program table) (here : program[j]? = some .loopClose) :
    ∃ i : Nat, table[j]? = some (i : Int) ∧ program[i]? = some .loopOpen ∧ IsLeast {k | program.EvenFrom i k} j := by
  obtain ⟨i,⟨opens,leads⟩,-⟩ := partners.closing j here
  obtain ⟨k,leadsToo,least,-,back⟩ := partners.opening i opens
  obtain rfl : k = j := Int.ofNat.inj (Option.some.inj (leadsToo.symm.trans leads))
  exact ⟨i,back,opens,least⟩

/-- The positions of the brackets determine the table. -/
theorem unique (partners : Partners program table) (partnersToo : Partners program other) : other = table := by
  apply List.ext_getElem?
  intro i
  by_cases inside : i < program.length
  · have here : program[i]? = some program[i] := List.getElem?_eq_getElem inside
    by_cases opens : program[i]? = some .loopOpen
    · obtain ⟨j,leads,least,-⟩ := partners.opening i opens
      obtain ⟨k,leadsToo,leastToo,-⟩ := partnersToo.opening i opens
      rw [leads,leadsToo,least.unique leastToo]
    by_cases closes : program[i]? = some .loopClose
    · obtain ⟨j,back,opening,least⟩ := partners.back closes
      -- the other table joins the same opening bracket with this one
      obtain ⟨k,-,leastToo,-,backToo⟩ := partnersToo.opening j opening
      rw [least.unique leastToo,backToo,← least.unique leastToo,back]
    · have bare : ¬ program.HasBracket i := not_or.mpr ⟨opens,closes⟩
      rw [(partners.empty i inside).mpr bare,(partnersToo.empty i inside).mpr bare]
  · have beyond := Nat.le_of_not_lt inside
    rw [List.getElem?_eq_none (partnersToo.length.trans_le beyond),
      List.getElem?_eq_none (partners.length.trans_le beyond)]

end Partners

/-! ### The table of a program -/

section
variable (scanned : Scanned program program.length [] jumps)
include scanned

theorem Scanned.slot_of_bracket (bracket : program.HasBracket i) : ∃ p, jumps[i]? = some (some p) := by
  have inside : i < program.length := by
    rcases bracket with here | here
    · exact (List.getElem?_eq_some_iff.mp here).1
    · exact (List.getElem?_eq_some_iff.mp here).1
  exact (scanned.found i inside bracket).resolve_left List.not_mem_nil
/-- The bracket that opens a loop is joined with the one that closes it. -/
theorem Scanned.opening (here : program[i]? = some .loopOpen) :
    ∃ j, jumps[i]? = some (some j) ∧ jumps[j]? = some (some i) ∧ Loop program i j := by
  obtain ⟨j,leads⟩ := scanned.slot_of_bracket (.inl here)
  obtain ⟨-,back,loop | loop⟩ := scanned.joined i j leads
  · exact ⟨j,leads,back,loop⟩
  · cases here.symm.trans loop.closing
/-- The bracket that closes a loop is joined with the one that opens it. -/
theorem Scanned.closing (here : program[j]? = some .loopClose) :
    ∃ i, jumps[i]? = some (some j) ∧ jumps[j]? = some (some i) ∧ Loop program i j := by
  obtain ⟨i,back⟩ := scanned.slot_of_bracket (.inr here)
  obtain ⟨-,leads,loop | loop⟩ := scanned.joined j i back
  · cases here.symm.trans loop.opening
  · exact ⟨i,leads,back,loop⟩

theorem Scanned.partners : Partners program jumps.toInts where
  length := by
    rw [toInts,List.length_map,Array.length_toList,scanned.size]
  empty i inside := by
    rw [getElem?_toInts_none]
    constructor
    · intro empty bracket
      obtain ⟨p,leads⟩ := scanned.slot_of_bracket bracket
      cases empty.symm.trans leads
    · intro bare
      obtain ⟨_ | p,slot⟩ := scanned.exists_slot inside
      · exact slot
      · obtain ⟨-,-,loop | loop⟩ := scanned.joined i p slot
        · exact absurd (.inl loop.opening) bare
        · exact absurd (.inr loop.closing) bare
  opening i here := by
    obtain ⟨j,leads,back,loop⟩ := scanned.opening here
    exact ⟨j,getElem?_toInts_some.mpr leads,loop.isLeast,loop.closing,getElem?_toInts_some.mpr back⟩
  closing j here := by
    obtain ⟨i,leads,back,loop⟩ := scanned.closing here
    refine ⟨i,⟨loop.opening,getElem?_toInts_some.mpr leads⟩,?_⟩
    rintro other ⟨-,leadsToo⟩
    obtain ⟨-,backToo,-⟩ := scanned.joined other j (getElem?_toInts_some.mp leadsToo)
    cases back.symm.trans backToo
    rfl

end

theorem scanned_of_ok (resolves : ofProgram program = .ok jumps) : Scanned program program.length [] jumps := by
  have outcome := outcome_ofProgram program
  rw [resolves] at outcome
  cases outcome with
  | resolved scanned => exact scanned

/-- The table of an accepted program joins its brackets: each opening one with the first position behind it up to which
    as many loops are opened as closed, where a closing one stands that is the partner of no other. No other table does,
    in this table partners lead to each other, and a loop that begins inside another one ends inside it. -/
theorem partners_toInts (source : Source) (resolves : ofProgram source.program = .ok jumps) :
    let program := source.program
    let table := jumps.toInts
    table.length = source.length ∧ Partners program table ∧
    (∀ i, program.HasBracket i → ∃ j : Nat, program.HasBracket j ∧ table[i]? = some (j : Int) ∧
      table[j]? = some (i : Int)) ∧
    (∀ i j k l : Nat, program[i]? = some .loopOpen → table[i]? = some (j : Int) → program[k]? = some .loopOpen →
      table[k]? = some (l : Int) → i < k → k < j → l < j) ∧
    ∀ other, Partners program other → other = table := by
  intro program table
  have scanned : Scanned program program.length [] jumps := scanned_of_ok resolves
  have loopOf (i j : Nat) (here : program[i]? = some .loopOpen) (leads : table[i]? = some (j : Int)) :
      Loop program i j := by
    obtain ⟨k,leadsToo,-,loop⟩ := scanned.opening here
    cases (getElem?_toInts_some.mp leads).symm.trans leadsToo
    exact loop
  refine ⟨?_,scanned.partners,?_,?_,fun other partnersToo => scanned.partners.unique partnersToo⟩
  · rw [← source.length_program]
    exact scanned.partners.length
  · rintro i (opens | closes)
    · obtain ⟨j,leads,back,loop⟩ := scanned.opening opens
      exact ⟨j,.inr loop.closing,getElem?_toInts_some.mpr leads,getElem?_toInts_some.mpr back⟩
    · obtain ⟨j,leads,back,loop⟩ := scanned.closing closes
      exact ⟨j,.inl loop.opening,getElem?_toInts_some.mpr back,getElem?_toInts_some.mpr leads⟩
  · intro i j k l opens leads opensToo leadsToo begun inside
    exact (loopOf i j opens leads).nested (loopOf k l opensToo leadsToo) begun inside

/-- A loop around two others, the second of which has a comment in it. -/
theorem partners_toInts_nested :
    let source : Source := .text (lit "[[]a[b]]")
    let jumps : Jumps := #[some 7,some 2,some 1,none,some 6,none,some 4,some 0]
    ofProgram source.program = .ok jumps ∧ jumps.toInts = [7,2,1,-1,6,-1,4,0] ∧
      IsLeast {k | source.program.EvenFrom 0 k} 7 := by
  intro source jumps
  have resolves : ofProgram source.program = .ok jumps := by decide
  obtain ⟨-,partners,-⟩ := partners_toInts source resolves
  obtain ⟨j,leads,least,-⟩ := partners.opening 0 (by decide)
  have table : jumps.toInts = [7,2,1,-1,6,-1,4,0] := by decide
  rw [table] at leads
  obtain rfl : 7 = j := Int.ofNat.inj (Option.some.inj leads)
  exact ⟨resolves,table,least⟩

end Jumps

end TapeArena
