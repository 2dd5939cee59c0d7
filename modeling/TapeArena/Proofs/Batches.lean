import TapeArena.Proofs.Atomicity

/-!
Populations that are scored in batches. A cache that has grown by the scores of one batch knows the programs of that
batch and nothing else that is new (`lookup_grow`), so that the new programs of the next batch are those that are left
of both (`fresh_append`). Hence two batches in order come to the same as both at once, and a batch that is scored
again needs no evaluation (`evaluate_append`).
-/
namespace TapeArena.Population
variable {π σ ε S : Type} [DecidableEq π]

/-! ### The cache between two batches -/

/-- A cache with the scores of the programs that were new to it. -/
def grow (f : π → σ) (cache : Cache π σ) (programs : List π) : Cache π σ :=
  cache ++ (fresh cache programs).map fun p => (p,f p)
/-- The score of a program: the one that a cache holds, or else a new one. -/
def scoreIn (f : π → σ) (cache : Cache π σ) (p : π) : σ := (cache.lookup p).getD (f p)

theorem lookup_grow (f : π → σ) (cache : Cache π σ) (programs : List π) (p : π) :
    (grow f cache programs).lookup p = if p ∈ programs then some (scoreIn f cache p) else cache.lookup p := by
  by_cases member : p ∈ programs
  · rw [if_pos member]
    exact lookup_evaluated f cache member
  · have notNew : p ∉ fresh cache programs := fun isNew => member ((mem_fresh cache programs p).mp isNew).1
    rw [if_neg member,grow,List.lookup_append,lookup_map_self,if_neg notNew,Option.or_none]

theorem scoreIn_grow (f : π → σ) (cache : Cache π σ) (programs : List π) (p : π) :
    scoreIn f (grow f cache programs) p = scoreIn f cache p := by
  rw [scoreIn,lookup_grow]
  by_cases member : p ∈ programs
  · rw [if_pos member,Option.getD_some]
  · rw [if_neg member,scoreIn]

/-- The new programs of two batches are those of the first one, and then those that are still new in the second. -/
theorem fresh_append (f : π → σ) (cache : Cache π σ) (first second : List π) :
    fresh cache (first ++ second) = fresh cache first ++ fresh (grow f cache first) second := by
  -- of the second batch those are left that neither the cache knew nor the first batch held
  have left : (second.filter fun p => (cache.lookup p).isNone).removeAll
      (first.filter fun p => (cache.lookup p).isNone) =
        second.filter fun p => ((grow f cache first).lookup p).isNone := by
    rw [List.removeAll,List.filter_filter]
    refine List.filter_congr fun p _ => ?_
    rw [lookup_grow]
    by_cases member : p ∈ first <;> cases found : cache.lookup p <;> simp [member,found]
  rw [fresh,List.filter_append,List.eraseDups_append,left]
  rfl

theorem grow_append (f : π → σ) (cache : Cache π σ) (first second : List π) :
    grow f cache (first ++ second) = grow f (grow f cache first) second := by
  rw [grow,fresh_append f,List.map_append,← List.append_assoc]
  rfl

theorem fresh_grow (f : π → σ) (cache : Cache π σ) (programs : List π) :
    fresh (grow f cache programs) programs = [] := by
  refine List.eq_nil_iff_forall_not_mem.mpr fun p isNew => ?_
  obtain ⟨member,unknown⟩ := (mem_fresh _ _ p).mp isNew
  rw [lookup_grow,if_pos member] at unknown
  cases unknown

theorem scored_grow (f : π → σ) (cache : Cache π σ) (programs : List π) :
    scored (grow f cache programs) programs = programs.map fun p => (p,scoreIn f cache p) :=
  scored_eq_map fun p member => (lookup_grow f cache programs p).trans (if_pos member)

/-! ### Evaluations -/

section
variable {configuration : ExceptT ε (StateM S) EvalConfig} {config : EvalConfig} {cache : Cache π σ}
  {programs : List π} {shared after : S}

theorem evaluate_grow (f : π → σ) (configured : configuration shared = (.ok config,after)) :
    evaluate configuration (fun p => pure (f p)) programs ⟨cache,shared⟩ =
      (.ok (programs.map fun p => (p,scoreIn f cache p)),⟨grow f cache programs,after⟩) := by
  have scoring : serially (fun p => pure (f p) : Scorer S ε π σ) (fresh cache programs) after = _ :=
    serially_pure f (fresh cache programs) after
  have zipped : cache ++ (fresh cache programs).zip ((fresh cache programs).map f) = grow f cache programs := by
    rw [grow,List.map_prod_left_eq_zip]
  rw [evaluate_of_configured configured,evaluate_of_serially config scoring]
  simp only [zipped,scored_grow,ite_self]

/-- Where nothing is new, the scorer makes no difference. -/
theorem evaluate_known (scorer : Scorer S ε π σ) (configured : configuration shared = (.ok config,after))
    (known : fresh cache programs = []) :
    evaluate configuration scorer programs ⟨cache,shared⟩ = (.ok (scored cache programs),⟨cache,after⟩) := by
  have scoring : serially scorer (fresh cache programs) after = (.ok [],after) := by
    rw [known]
    rfl
  rw [evaluate_of_configured configured,evaluate_of_serially config scoring]
  simp only [List.zip_nil_right,List.append_nil,ite_self]

end

/-- Two batches that are scored in order, the second one on the cache that the first one left, come to the same as
    both at once: the same cache, and the scores of one batch after those of the other. A batch that is scored again
    gets the same scores whatever the scorer does, even if it always fails, and the cache stays. Each call has a
    configuration of its own, be it given or taken from what is shared. -/
theorem evaluate_append (f : π → σ) (first second : List π) (cache : Cache π σ)
    {one two both : ExceptT ε (StateM S) EvalConfig} {configOne configTwo configBoth : EvalConfig}
    {start between after afterBoth : S} (configuredOne : one start = (.ok configOne,between))
    (configuredTwo : two between = (.ok configTwo,after)) (configuredBoth : both start = (.ok configBoth,afterBoth)) :
    ∃ (scoresOne scoresTwo : List (π × σ)) (partly fully : Cache π σ),
      evaluate one (fun p => pure (f p)) first ⟨cache,start⟩ = (.ok scoresOne,⟨partly,between⟩) ∧
      evaluate two (fun p => pure (f p)) second ⟨partly,between⟩ = (.ok scoresTwo,⟨fully,after⟩) ∧
      evaluate both (fun p => pure (f p)) (first ++ second) ⟨cache,start⟩ =
        (.ok (scoresOne ++ scoresTwo),⟨fully,afterBoth⟩) ∧
      ∀ (again : ExceptT ε (StateM S) EvalConfig) (config : EvalConfig) (now later : S) (scorer : Scorer S ε π σ),
        again now = (.ok config,later) →
          evaluate again scorer first ⟨partly,now⟩ = (.ok scoresOne,⟨partly,later⟩) := by
  refine ⟨first.map fun p => (p,scoreIn f cache p),second.map fun p => (p,scoreIn f cache p),
    grow f cache first,grow f cache (first ++ second),evaluate_grow f configuredOne,?_,?_,?_⟩
  · rw [evaluate_grow f configuredTwo,grow_append]
    simp only [scoreIn_grow]
  · rw [evaluate_grow f configuredBoth,List.map_append]
  · intro again config now later scorer configured
    rw [evaluate_known scorer configured (fresh_grow f cache first),scored_grow]

/-- The first batch has its configuration from a session that reads its settings then, the second one finds them read,
    and both at once are given one; a scorer that always fails makes no difference to a batch that was scored. -/
theorem evaluate_append_session :
    let asked : ExceptT SettingError (StateM (Session × Unit)) EvalConfig := configuration id none
    let given : ExceptT SettingError (StateM (Session × Unit)) EvalConfig := configuration id (some ⟨false,1⟩)
    let failing : Scorer (Session × Unit) SettingError Nat Nat := fun p shared => (.error (.negative .stepLimit p),shared)
    let unread : Session := .empty 4
    let read : Session := { unread with cached := some (.default 4) }
    asked (unread,()) = (.ok (.default 4),read,()) ∧
      asked (read,()) = (.ok (.default 4),read,()) ∧ given (unread,()) = (.ok ⟨false,1⟩,unread,()) ∧
      ∃ (scoresOne scoresTwo : List (Nat × Nat)) (partly fully : Cache Nat Nat),
        evaluate asked (fun p => pure (10 * p)) [3,1,3] ⟨[(1,7)],unread,()⟩ = (.ok scoresOne,⟨partly,read,()⟩) ∧
        evaluate asked (fun p => pure (10 * p)) [2,3] ⟨partly,read,()⟩ = (.ok scoresTwo,⟨fully,read,()⟩) ∧
        evaluate given (fun p => pure (10 * p)) ([3,1,3] ++ [2,3]) ⟨[(1,7)],unread,()⟩ =
          (.ok (scoresOne ++ scoresTwo),⟨fully,unread,()⟩) ∧
        evaluate asked failing [3,1,3] ⟨partly,read,()⟩ = (.ok scoresOne,⟨partly,read,()⟩) := by
  intro asked given failing unread read
  have reads : asked (unread,()) = (.ok (.default 4),read,()) := rfl
  have isRead : asked (read,()) = (.ok (.default 4),read,()) := rfl
  have isGiven : given (unread,()) = (.ok ⟨false,1⟩,unread,()) := rfl
  obtain ⟨scoresOne,scoresTwo,partly,fully,byOne,byTwo,byBoth,again⟩ :=
    evaluate_append (fun p : Nat => 10 * p) [3,1,3] [2,3] [(1,7)] reads isRead isGiven
  exact ⟨reads,isRead,isGiven,scoresOne,scoresTwo,partly,fully,byOne,byTwo,byBoth,
    again asked _ _ _ failing isRead⟩

example : evaluate (pure ⟨true,2⟩) (fun p => pure (10 * p) : Scorer Unit Empty Nat Nat) [2,3] ⟨[(1,7),(3,30)],()⟩ =
    (.ok [(2,20),(3,30)],⟨[(1,7),(3,30),(2,20)],()⟩) := rfl

end TapeArena.Population
