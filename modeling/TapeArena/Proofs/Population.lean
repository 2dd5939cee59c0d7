import Mathlib.Data.List.Basic
import TapeArena.Population
import TapeArena.Proofs.Actions

/-!
Scores of a population. The programs that are evaluated are the distinct ones without a score, in the order of
first occurrence (`mem_fresh`, `pairwise_fresh`). Whether they are handed to one process or to several, each is
evaluated once, the cache grows by their scores in that order, and every program of the population finds its
score there (`evaluate_pure`).
-/
namespace TapeArena.Population
variable {π σ ε S : Type} [DecidableEq π]

/-! ### The programs without a score -/

/-- Where elements other than the first one occur first. -/
theorem idxOf_behind {first p q : π} {rest : List π} (otherP : p ≠ first) (otherQ : q ≠ first)
    (before : rest.idxOf p < rest.idxOf q) : (first :: rest).idxOf p < (first :: rest).idxOf q := by
  rw [List.idxOf_cons_ne rest otherP.symm,List.idxOf_cons_ne rest otherQ.symm]
  exact Nat.succ_lt_succ before

/-- Without its repetitions, a part of a list is in the order of first occurrence. -/
theorem pairwise_eraseDups_filter (keep : π → Bool) (programs : List π) :
    (programs.filter keep).eraseDups.Pairwise fun p q => programs.idxOf p < programs.idxOf q := by
  induction programs generalizing keep with
  | nil => exact .nil
  | cons first rest ih =>
    by_cases kept : keep first
    · rw [List.filter_cons_of_pos kept,List.eraseDups_cons,List.filter_filter]
      have others : ∀ p ∈ (rest.filter fun p => (!p == first) && keep p).eraseDups, p ≠ first := by
        intro p member
        have passed := List.mem_filter.mp (List.mem_eraseDups.mp member)
        simp only [Bool.and_eq_true,Bool.not_eq_true',beq_eq_false_iff_ne] at passed
        exact passed.2.1
      refine List.pairwise_cons.mpr ⟨?_,?_⟩
      · intro p member
        rw [List.idxOf_cons_self,List.idxOf_cons_ne rest (others p member).symm]
        exact Nat.succ_pos _
      · exact (ih _).imp_of_mem fun memberP memberQ => idxOf_behind (others _ memberP) (others _ memberQ)
    · rw [List.filter_cons_of_neg kept]
      have others : ∀ p ∈ (rest.filter keep).eraseDups, p ≠ first := by
        rintro p member rfl
        exact kept (List.mem_filter.mp (List.mem_eraseDups.mp member)).2
      exact (ih keep).imp_of_mem fun memberP memberQ => idxOf_behind (others _ memberP) (others _ memberQ)

theorem mem_fresh (cache : Cache π σ) (programs : List π) (p : π) :
    p ∈ fresh cache programs ↔ p ∈ programs ∧ cache.lookup p = none := by
  simp [fresh,List.mem_eraseDups]
theorem pairwise_fresh (cache : Cache π σ) (programs : List π) :
    (fresh cache programs).Pairwise fun p q => programs.idxOf p < programs.idxOf q :=
  pairwise_eraseDups_filter _ programs
theorem nodup_fresh (cache : Cache π σ) (programs : List π) : (fresh cache programs).Nodup := by
  refine (pairwise_fresh cache programs).imp ?_
  rintro p q before rfl
  exact Nat.lt_irrefl _ before

/-! ### The cache -/

theorem lookup_map_self (f : π → σ) (programs : List π) (p : π) :
    (programs.map fun p => (p,f p)).lookup p = if p ∈ programs then some (f p) else none := by
  induction programs with
  | nil => rfl
  | cons first rest ih =>
    by_cases same : p = first
    · subst same
      simp
    · have differs : (p == first) = false := by simpa using same
      simp [List.lookup_cons,differs,ih,same]

/-- Every program of a population has a score once the programs without one have got theirs. -/
theorem lookup_evaluated (f : π → σ) (cache : Cache π σ) {programs : List π} {p : π} (member : p ∈ programs) :
    (cache ++ (fresh cache programs).map fun p => (p,f p)).lookup p =
      some ((cache.lookup p).getD (f p)) := by
  rw [List.lookup_append,lookup_map_self]
  cases found : cache.lookup p with
  | some score => rfl
  | none => simp [mem_fresh,member,found]

theorem scored_eq_map {cache : Cache π σ} {programs : List π} {score : π → σ}
    (found : ∀ p ∈ programs, cache.lookup p = some (score p)) :
    scored cache programs = programs.map fun p => (p,score p) := by
  rw [scored,← List.filterMap_eq_map]
  refine List.filterMap_congr fun p member => ?_
  rw [found p member]
  rfl

/-! ### Evaluations -/

/-- What comes of a population whose new programs are handed to a scorer: with all their scores the cache grows,
    and otherwise it stays. Only without a pool does what the scorer leaves behind remain. -/
theorem evaluate_of_serially (config : EvalConfig) {scorer : Scorer S ε π σ} {programs : List π}
    {cache : Cache π σ} {shared after : S} {scores : Except ε (List σ)}
    (scoring : serially scorer (fresh cache programs) shared = (scores,after)) :
    let new := fresh cache programs
    let left := if pooled config new then shared else after
    evaluate (pure config) scorer programs ⟨cache,shared⟩ =
      match scores with
      | .ok scores => (.ok (scored (cache ++ new.zip scores) programs),⟨cache ++ new.zip scores,left⟩)
      | .error error => (.error error,⟨cache,left⟩) := by
  intro new left
  have handed : (onShared (if pooled config new then inPool scorer new else serially scorer new) :
      Action S ε π σ (List σ)) ⟨cache,shared⟩ = (scores,⟨cache,left⟩) := by
    have scoring : serially scorer new shared = (scores,after) := scoring
    by_cases several : pooled config new
    · simp only [onShared,left,several,if_true,inPool,scoring]
    · simp only [onShared,left,several,if_false,scoring,Bool.false_eq_true]
  have configured : (onShared (pure config) : Action S ε π σ EvalConfig) ⟨cache,shared⟩ =
      (.ok config,⟨cache,shared⟩) := rfl
  rw [evaluate,Action.bind_of_ok configured,Action.bind_get]
  cases scores with
  | ok scores => exact (Action.bind_of_ok handed).trans rfl
  | error error => exact Action.bind_of_error handed

omit [DecidableEq π] in
/-- Scores that are computed without regard to anything shared. -/
theorem serially_pure (f : π → σ) (programs : List π) (shared : S) :
    serially (fun p => pure (f p) : Scorer S ε π σ) programs shared = (.ok (programs.map f),shared) := by
  rw [serially,List.mapM_pure]
  rfl

/-- Scores a program and remembers it; a program that is remembered already is refused. -/
def onceOnly (f : π → σ) : Scorer (List π) π π σ := fun p called =>
  if p ∈ called then (.error p,called) else (.ok (f p),called ++ [p])

/-- Distinct programs are scored and remembered in order, up to the first one that was remembered before; `done`
    are those that were scored already. -/
theorem serially_onceOnly (f : π → σ) (called : List π) {done programs : List π}
    (distinct : (done ++ programs).Nodup) :
    serially (onceOnly f) programs (called ++ done) =
      (match programs.find? fun p => p ∈ called with
        | none => .ok (programs.map f)
        | some p => .error p,
       called ++ (done ++ programs.takeWhile fun p => p ∉ called)) := by
  induction programs generalizing done with
  | nil => simp [serially]; rfl
  | cons first rest ih =>
    have notDone : first ∉ done := fun member =>
      (List.nodup_append.mp distinct).2.2 first member first List.mem_cons_self rfl
    rw [serially,List.mapM_cons]
    by_cases again : first ∈ called
    · have refused : onceOnly f first (called ++ done) = (.error first,called ++ done) :=
        if_pos (List.mem_append_left done again)
      simp [TapeArena.Action.bind_of_error refused,again]
    · have accepted : onceOnly f first (called ++ done) = (.ok (f first),called ++ (done ++ [first])) := by
        rw [← List.append_assoc]
        exact if_neg fun member => (List.mem_append.mp member).elim again notDone
      have distinctLater : ((done ++ [first]) ++ rest).Nodup := by rwa [List.append_assoc]
      have later := ih distinctLater
      rw [TapeArena.Action.bind_of_ok accepted]
      cases found : rest.find? fun p => p ∈ called with
      | none =>
        rw [found] at later
        refine (TapeArena.Action.bind_of_ok later).trans ?_
        simp [again,found]
        rfl
      | some p =>
        rw [found] at later
        refine (TapeArena.Action.bind_of_error later).trans ?_
        simp [again,found]

/-- What comes of a population, whatever its configuration. The new programs are those without a score, each once
    and in the order of first occurrence; their scores go to the end of the cache, and every program, repeated
    ones included, gets the score that it has there. A scorer that refuses a second call for a program shows that
    exactly the new programs are scored, once each: it succeeds if none of them was called before, and
    otherwise refuses the first that was. -/
theorem evaluate_pure (f : π → σ) (cache : Cache π σ) (programs : List π) :
    ∃ new : List π, new.Nodup ∧ (∀ p, p ∈ new ↔ p ∈ programs ∧ cache.lookup p = none) ∧
      new.Pairwise (fun p q => programs.idxOf p < programs.idxOf q) ∧
      let grown := cache ++ new.map fun p => (p,f p)
      let scores := programs.map fun p => (p,(cache.lookup p).getD (f p))
      (∀ entry ∈ scores, grown.lookup entry.1 = some entry.2) ∧
        ∀ config : EvalConfig,
          (∀ shared : S, evaluate (pure config) (fun p => pure (f p) : Scorer S ε π σ) programs ⟨cache,shared⟩ =
            (.ok scores,⟨grown,shared⟩)) ∧
          ∀ called : List π,
            let left := if pooled config new then called else called ++ new.takeWhile fun p => p ∉ called
            evaluate (pure config) (onceOnly f) programs ⟨cache,called⟩ =
              match new.find? fun p => p ∈ called with
              | none => (.ok scores,⟨grown,left⟩)
              | some p => (.error p,⟨cache,left⟩) := by
  refine ⟨fresh cache programs,nodup_fresh cache programs,mem_fresh cache programs,
    pairwise_fresh cache programs,?_⟩
  intro grown scores
  have zipped : cache ++ (fresh cache programs).zip ((fresh cache programs).map f) = grown := by
    rw [← List.map_prod_left_eq_zip]
  have found : ∀ p ∈ programs, grown.lookup p = some ((cache.lookup p).getD (f p)) :=
    fun p member => lookup_evaluated f cache member
  have scoredIs : scored grown programs = scores := scored_eq_map found
  refine ⟨?_,fun config => ⟨fun shared => ?_,fun called => ?_⟩⟩
  · intro entry member
    obtain ⟨p,inPrograms,rfl⟩ := List.mem_map.mp member
    exact found p inPrograms
  · have scoring : serially (fun p => pure (f p) : Scorer S ε π σ) (fresh cache programs) shared = _ :=
      serially_pure f (fresh cache programs) shared
    have evaluated := evaluate_of_serially config scoring
    simp only [zipped,scoredIs,ite_self] at evaluated
    exact evaluated
  · intro left
    have distinct : ([] ++ fresh cache programs).Nodup := nodup_fresh cache programs
    have scoring := serially_onceOnly f called distinct
    rw [List.append_nil,List.nil_append] at scoring
    cases refused : (fresh cache programs).find? fun p => p ∈ called with
    | none =>
      rw [refused] at scoring
      refine (evaluate_of_serially config scoring).trans ?_
      simp only [zipped,scoredIs,left]
    | some p =>
      rw [refused] at scoring
      exact evaluate_of_serially config scoring

example : evaluate (pure ⟨true,1⟩) (onceOnly fun p : Nat => 10 * p) [3,1,3,2] ⟨[(1,7)],[]⟩ =
    (.ok [(3,30),(1,7),(3,30),(2,20)],⟨[(1,7),(3,30),(2,20)],[3,2]⟩) := rfl

end TapeArena.Population
