import TapeArena.Proofs.Population

/-!
An evaluation is all or nothing. It fails if its configuration has to be taken from settings that cannot be read, or
if the scorer fails on a new program (`Fails`), and only then (`evaluate_atomic`). A failure leaves the cache as it
was, wherever it comes up; otherwise the cache grows by one score for each new program.
-/
namespace TapeArena.Population
variable {π σ ε S τ : Type}

/-! ### Failures of a scorer -/

/-- A scorer fails on one of some programs, each of which it scores on what the programs before it left. -/
inductive Fails (scorer : Scorer S ε π σ) : List π → S → Prop
  | here {p : π} {rest : List π} {shared after : S} {error : ε} (failed : scorer p shared = (.error error,after)) :
    Fails scorer (p :: rest) shared
  | later {p : π} {rest : List π} {shared after : S} {score : σ} (done : scorer p shared = (.ok score,after))
    (fails : Fails scorer rest after) : Fails scorer (p :: rest) shared

/-- Programs that are scored in order all get a score, or the scorer fails on one of them. -/
theorem serially_cases (scorer : Scorer S ε π σ) (programs : List π) (shared : S) :
    (∃ scores after, serially scorer programs shared = (.ok scores,after) ∧ scores.length = programs.length ∧
      ¬ Fails scorer programs shared) ∨
    ∃ error after, serially scorer programs shared = (.error error,after) ∧ Fails scorer programs shared := by
  -- every program begins on what the one before it left
  induction programs generalizing shared with
  | nil => exact .inl ⟨[],shared,rfl,rfl,nofun⟩
  | cons first rest ih =>
    rw [serially,List.mapM_cons]
    rcases scoring : scorer first shared with ⟨result,between⟩
    cases result with
    | error error => exact .inr ⟨error,between,Action.bind_of_error scoring,.here scoring⟩
    | ok score =>
      rw [Action.bind_of_ok scoring]
      rcases ih between with ⟨scores,after,done,length,goes⟩ | ⟨error,after,failed,fails⟩
      · refine .inl ⟨score :: scores,after,(Action.bind_of_ok done).trans rfl,congrArg (· + 1) length,?_⟩
        intro fails
        cases fails with
        | here failed => cases scoring.symm.trans failed
        | later done fails =>
          cases scoring.symm.trans done
          exact goes fails
      · exact .inr ⟨error,after,Action.bind_of_error failed,.later scoring fails⟩

/-- A scorer that fails on certain programs, whatever it finds, fails on some programs if one of those is among them. -/
theorem fails_iff {scorer : Scorer S ε π σ} {bad : π → Prop}
    (fails : ∀ p shared, (∃ error, (scorer p shared).1 = .error error) ↔ bad p) (programs : List π) (shared : S) :
    Fails scorer programs shared ↔ ∃ p ∈ programs, bad p := by
  constructor
  · intro failing
    induction failing with
    | @here p rest shared after error failed =>
      exact ⟨p,List.mem_cons_self,(fails p shared).mp ⟨error,congrArg Prod.fst failed⟩⟩
    | later _ _ ih =>
      obtain ⟨p,member,isBad⟩ := ih
      exact ⟨p,List.mem_cons_of_mem _ member,isBad⟩
  · rintro ⟨p,member,isBad⟩
    induction programs generalizing shared with
    | nil => cases member
    | cons first rest ih =>
      rcases scoring : scorer first shared with ⟨result,between⟩
      cases result with
      | error error => exact .here scoring
      | ok score =>
        have notBad : ¬ bad first := by
          intro isBad
          obtain ⟨error,failed⟩ := (fails first shared).mpr isBad
          rw [scoring] at failed
          cases failed
        rcases List.mem_cons.mp member with rfl | inRest
        · exact absurd isBad notBad
        · exact .later scoring (ih between inRest)

/-! ### Evaluations -/

section
variable [DecidableEq π] {configuration : ExceptT ε (StateM S) EvalConfig} {scorer : Scorer S ε π σ} {programs : List π}
  {cache : Cache π σ} {shared between : S}

theorem evaluate_of_configured {config : EvalConfig} (configured : configuration shared = (.ok config,between)) :
    evaluate configuration scorer programs ⟨cache,shared⟩ = evaluate (pure config) scorer programs ⟨cache,between⟩ := by
  have determined : (onShared configuration : Action S ε π σ EvalConfig) ⟨cache,shared⟩ =
      (.ok config,⟨cache,between⟩) := by
    simp only [onShared,configured]
  have given : (onShared (pure config) : Action S ε π σ EvalConfig) ⟨cache,between⟩ =
      (.ok config,⟨cache,between⟩) := rfl
  rw [evaluate,Action.bind_of_ok determined,evaluate,Action.bind_of_ok given]

theorem evaluate_of_unconfigured {error : ε} (failed : configuration shared = (.error error,between)) :
    evaluate configuration scorer programs ⟨cache,shared⟩ = (.error error,⟨cache,between⟩) := by
  have undetermined : (onShared configuration : Action S ε π σ EvalConfig) ⟨cache,shared⟩ =
      (.error error,⟨cache,between⟩) := by
    simp only [onShared,failed]
  rw [evaluate,Action.bind_of_error undetermined]

/-- A cache that grew by a score for each new program has a score for every program. -/
theorem lookup_grown {scores : List σ} (length : scores.length = (fresh cache programs).length) {p : π}
    (member : p ∈ programs) : ∃ score, (cache ++ (fresh cache programs).zip scores).lookup p = some score := by
  rw [List.lookup_append]
  cases found : cache.lookup p with
  | some score => exact ⟨score,rfl⟩
  | none =>
    have isNew : p ∈ ((fresh cache programs).zip scores).map Prod.fst := by
      rw [List.map_fst_zip (Nat.le_of_eq length.symm),mem_fresh]
      exact ⟨member,found⟩
    obtain ⟨entry,entered,isFirst⟩ := List.mem_map.mp isNew
    cases looked : ((fresh cache programs).zip scores).lookup p with
    | some score => exact ⟨score,rfl⟩
    | none => exact absurd isFirst.symm (by simpa using List.lookup_eq_none_iff.mp looked entry entered)

/-- If every program has a score, each of them is listed, repeated ones included. -/
theorem map_fst_scored (found : ∀ p ∈ programs, ∃ score, cache.lookup p = some score) :
    (scored cache programs).map Prod.fst = programs := by
  induction programs with
  | nil => rfl
  | cons first rest ih =>
    obtain ⟨score,looked⟩ := found first List.mem_cons_self
    have later := ih fun p member => found p (List.mem_cons_of_mem first member)
    have listed : scored cache (first :: rest) = (first,score) :: scored cache rest := by
      simp only [scored,List.filterMap_cons,looked,Option.map_some]
    rw [listed,List.map_cons,later]

theorem lookup_of_scored {entry : π × σ} (listed : entry ∈ scored cache programs) :
    cache.lookup entry.1 = some entry.2 := by
  obtain ⟨p,-,looked⟩ := List.mem_filterMap.mp listed
  obtain ⟨score,found,rfl⟩ := Option.map_eq_some_iff.mp looked
  exact found

/-- A cache before and after an evaluation: it stays as it was if that failed; otherwise it has grown by one score for
    each new program, and every program is listed with the score that it has there. -/
inductive Settled (cache : Cache π σ) (programs : List π) : Except ε (List (π × σ)) → Cache π σ → Prop
  | failed (error : ε) : Settled cache programs (.error error) cache
  | done {scores : List σ} {listed : List (π × σ)} (length : scores.length = (fresh cache programs).length)
    (all : listed.map Prod.fst = programs)
    (held : ∀ entry ∈ listed, (cache ++ (fresh cache programs).zip scores).lookup entry.1 = some entry.2) :
    Settled cache programs (.ok listed) (cache ++ (fresh cache programs).zip scores)

/-- With a configuration, an evaluation fails if the scorer fails on a new program. -/
theorem evaluate_cases (config : EvalConfig) (scorer : Scorer S ε π σ) (programs : List π) (cache : Cache π σ)
    (shared : S) :
    let outcome := evaluate (pure config) scorer programs ⟨cache,shared⟩
    Settled cache programs outcome.1 outcome.2.cache ∧
      ((∃ error, outcome.1 = .error error) ↔ Fails scorer (fresh cache programs) shared) := by
  intro outcome
  rcases serially_cases scorer (fresh cache programs) shared with
    ⟨scores,after,scoring,length,goes⟩ | ⟨error,after,scoring,fails⟩
  · have evaluated : outcome = _ := evaluate_of_serially config scoring
    rw [evaluated]
    refine ⟨.done length (map_fst_scored fun p member => lookup_grown length member) fun entry => lookup_of_scored,?_⟩
    exact ⟨fun ⟨_,failed⟩ => (nomatch failed),fun fails => absurd fails goes⟩
  · have evaluated : outcome = _ := evaluate_of_serially config scoring
    rw [evaluated]
    exact ⟨.failed error,⟨fun _ => fails,fun _ => ⟨error,rfl⟩⟩⟩

end

/-! ### Evaluations in a session -/

/-- The configuration of an evaluation: the one that is given, or else that of the session. `embed` tells how a
    failure to read the settings shows; evaluations share the session and anything else. -/
def configuration (embed : SettingError → ε) : Option EvalConfig → ExceptT ε (StateM (Session × τ)) EvalConfig
  | some config => pure config
  | none => fun (session,others) =>
    let (result,session) := EvalConfig.ofSession session
    (result.mapError embed,session,others)

/-- The settings are needed and cannot be read. -/
def Unreadable (given : Option EvalConfig) (session : Session) : Prop :=
  given = none ∧ ∃ error, (Session.settings session).1 = .error error

section
variable {embed : SettingError → ε} {session after : Session} {others : τ}

theorem configuration_of_read {settings : Settings} (read : Session.settings session = (.ok settings,after)) :
    configuration embed none (session,others) = (.ok (.ofSettings settings),after,others) := by
  simp only [configuration,EvalConfig.ofSession,Action.bind_of_ok read]
  rfl
theorem configuration_of_unread {error : SettingError} (unread : Session.settings session = (.error error,after)) :
    configuration embed none (session,others) = (.error (embed error),after,others) := by
  simp only [configuration,EvalConfig.ofSession,Action.bind_of_error unread]
  rfl

end

/-- An evaluation fails if it needs settings that cannot be read, whatever the programs are, or if the scorer fails on
    a new program; the cache is then as before, and it has grown by the scores of all new programs otherwise. So a
    scorer that fails on certain programs makes it fail only by one that is among the programs and has no score. -/
theorem evaluate_atomic [DecidableEq π] (embed : SettingError → ε) (given : Option EvalConfig)
    (scorer : Scorer (Session × τ) ε π σ) (programs : List π) (cache : Cache π σ) (session : Session) (others : τ) :
    let outcome := evaluate (configuration embed given) scorer programs ⟨cache,session,others⟩
    let begun := if given.isNone then (Session.settings session).2 else session
    Settled cache programs outcome.1 outcome.2.cache ∧
      ((∃ error, outcome.1 = .error error) ↔
        Unreadable given session ∨ Fails scorer (fresh cache programs) (begun,others)) ∧
      ∀ bad : π → Prop, (∀ p shared, (∃ error, (scorer p shared).1 = .error error) ↔ bad p) →
        ((∃ error, outcome.1 = .error error) ↔
          Unreadable given session ∨ ∃ p ∈ programs, cache.lookup p = none ∧ bad p) := by
  intro outcome begun
  have settled : Settled cache programs outcome.1 outcome.2.cache ∧ ((∃ error, outcome.1 = .error error) ↔
      Unreadable given session ∨ Fails scorer (fresh cache programs) (begun,others)) := by
    -- whether the settings are read is decided before any program is looked at
    cases given with
    | some config =>
      obtain ⟨settled,failing⟩ := evaluate_cases config scorer programs cache (session,others)
      exact ⟨settled,failing.trans ⟨.inr,fun either => either.elim (fun needed => (nomatch needed.1)) id⟩⟩
    | none =>
      rcases read : Session.settings session with ⟨result,after⟩
      have begunIs : begun = after := congrArg Prod.snd read
      have unreadable : Unreadable none session ↔ ∃ error, result = .error error := by
        simp only [Unreadable,read,true_and]
      rw [begunIs,unreadable]
      cases result with
      | ok settings =>
        have evaluated : outcome = _ := evaluate_of_configured (configuration_of_read read)
        obtain ⟨settled,failing⟩ := evaluate_cases (.ofSettings settings) scorer programs cache (after,others)
        rw [evaluated]
        exact ⟨settled,failing.trans ⟨.inr,fun either => either.elim (fun ⟨_,unread⟩ => (nomatch unread)) id⟩⟩
      | error error =>
        have evaluated : outcome = _ := evaluate_of_unconfigured (configuration_of_unread read)
        rw [evaluated]
        exact ⟨.failed (embed error),fun _ => .inl ⟨error,rfl⟩,fun _ => ⟨embed error,rfl⟩⟩
  refine ⟨settled.1,settled.2,fun bad fails => settled.2.trans (or_congr Iff.rfl ?_)⟩
  rw [fails_iff fails]
  simp only [mem_fresh,and_assoc]

example : evaluate (pure ⟨true,2⟩)
    (fun p _ => if p = 2 then (.error p,()) else (.ok (10 * p),()) : Scorer Unit Nat Nat Nat) [3,1,2,3] ⟨[(1,7)],()⟩ =
    (.error 2,⟨[(1,7)],()⟩) := rfl

end TapeArena.Population
