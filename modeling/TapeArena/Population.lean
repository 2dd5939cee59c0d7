import TapeArena.Entries
import TapeArena.Session

/-!
Scores of a whole population. Every distinct program that has no score yet is evaluated once, in the order
of first occurrence; new scores go to the end of the cache, all of them or, if one evaluation fails, none.
With several processes the evaluations work on a copy of what they share, and leave nothing behind.
-/
namespace TapeArena

/-- How populations are evaluated. -/
structure EvalConfig where
  parallel : Bool
  processes : Int
  deriving DecidableEq

namespace EvalConfig

def ofSettings (settings : Settings) : EvalConfig := ⟨settings.parallel,settings.processes⟩
/-- The configuration without settings, on a machine with some processors. -/
def default (processors : Nat) : EvalConfig := ofSettings (.default processors)
def ofSession : Session.Action SettingError EvalConfig := return ofSettings (← Session.settings)

end EvalConfig

namespace Population
variable {π σ ε S α : Type} [DecidableEq π]

/-- Scores of programs in the order in which they were found. -/
abbrev Cache (π σ : Type) := Entries π σ

/-- The cache of some scores in order; of repeated programs the last score stays, at the place of the
    first. -/
def Cache.ofList (scores : List (π × σ)) : Cache π σ := Entries.ofList (fun a b => decide (a = b)) scores

/-- Gives the score of a program; `S` is what evaluations share. -/
abbrev Scorer (S ε π σ : Type) := π → ExceptT ε (StateM S) σ

/-- What the evaluation of a population may change: the cache that is held, and what evaluations share. -/
structure Held (S π σ : Type) where
  cache : Cache π σ
  shared : S

/-- A computation on a held cache that may fail. -/
abbrev Action (S ε π σ α : Type) := ExceptT ε (StateM (Held S π σ)) α

/-- A computation on what is shared; the cache stays as it is. -/
def onShared (action : ExceptT ε (StateM S) α) : Action S ε π σ α := fun held =>
  let (result,shared) := action held.shared
  (result,{ held with shared })

/-- The programs without a score, each once, in the order of first occurrence. -/
def fresh (cache : Cache π σ) (programs : List π) : List π :=
  (programs.filter fun p => (cache.lookup p).isNone).eraseDups
/-- The evaluation is handed to several processes. -/
def pooled (config : EvalConfig) (programs : List π) : Bool :=
  config.parallel && 1 < programs.length && 1 < config.processes
/-- Evaluates programs one after the other, on what is shared. -/
def serially (scorer : Scorer S ε π σ) (programs : List π) : ExceptT ε (StateM S) (List σ) :=
  programs.mapM scorer
/-- Evaluates programs on a copy of what is shared. -/
def inPool (scorer : Scorer S ε π σ) (programs : List π) : ExceptT ε (StateM S) (List σ) :=
  fun shared => ((serially scorer programs shared).1,shared)
/-- The score of every program in order, repeated ones included. -/
def scored (cache : Cache π σ) (programs : List π) : List (π × σ) :=
  programs.filterMap fun p => (cache.lookup p).map (p,·)

/-- Scores a population. The configuration is determined first, even if there is nothing to evaluate; the
    cache changes only after every evaluation has succeeded. -/
def evaluate (configuration : ExceptT ε (StateM S) EvalConfig) (scorer : Scorer S ε π σ)
    (programs : List π) : Action S ε π σ (List (π × σ)) := do
  let config ← onShared configuration
  let unscored := fresh (← get).cache programs
  let scores ← onShared <|
    if pooled config unscored then inPool scorer unscored else serially scorer unscored
  modify fun held => { held with cache := held.cache ++ unscored.zip scores }
  return scored (← get).cache programs

end Population

end TapeArena
