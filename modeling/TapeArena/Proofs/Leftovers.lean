import Mathlib.Data.List.Induction
import Mathlib.Data.Rat.Defs
import TapeArena.Proofs.Histories
import TapeArena.Proofs.Variables

/-!
What readings leave behind. The variables of a session are those that were set by hand and those that a reading has
taken over from a file (`get?_after`); the latter stay when the file changes, until they are set or removed by hand.
Hence settings that are read after the kept ones were forgotten follow the file only in variables that no earlier
reading has taken over (`settings_after_forget`).
-/
namespace TapeArena
variable {α φ : Type}

/-! ### Variables by hand -/

namespace Act
variable {session : Session} {act : Act α φ} {name : Text}

/-- The variables after an act, as far as they are set and removed by hand. -/
def byHand (environment : Environment) : Act α φ → Environment
  | .set name value => (environment.assign name value).toOption.getD environment
  | .unset name => environment.unset name
  | _ => environment

/-- An act sets or removes a variable by hand. -/
def touches (name : Text) : Act α φ → Bool
  | .set other value => other = name && (Environment.objection? other value).isNone
  | .unset other => other = name
  | _ => false

/-- An act reads the settings anew: it does so directly, or it is a call that needs some while none are kept. -/
def reads (session : Session) : Act α φ → Bool
  | .load => true
  | .call made => made.needsSettings && session.cached.isNone
  | _ => false

theorem not_touches_of_reads (reads : act.reads session) : ¬ act.touches name := by
  cases act with
  | load => exact Bool.false_ne_true
  | call made => exact Bool.false_ne_true
  | _ => cases reads

theorem get?_byHand_self (touched : act.touches name) (one other : Environment) :
    (act.byHand one).get? name = (act.byHand other).get? name := by
  cases act with
  | set key value =>
    simp only [touches,Bool.and_eq_true,decide_eq_true_eq,Option.isNone_iff_eq_none] at touched
    obtain ⟨rfl,accepted⟩ := touched
    simp only [byHand,Environment.assign,accepted,Except.toOption,Option.getD_some,Environment.get?_set]
  | unset key =>
    obtain rfl := of_decide_eq_true touched
    rw [byHand,byHand,Environment.get?_unset,Environment.get?_unset]
  | _ => cases touched

theorem get?_byHand_other (untouched : ¬ act.touches name) (environment : Environment) :
    (act.byHand environment).get? name = environment.get? name := by
  cases act with
  | set key value =>
    rw [byHand,Environment.assign]
    cases objects : Environment.objection? key value with
    | some error => rfl
    | none =>
      have differs : name ≠ key := by
        rintro rfl
        simp [touches,objects] at untouched
      exact Environment.get?_set_of_ne environment differs value
  | unset key =>
    have differs : name ≠ key := by
      rintro rfl
      simp [touches] at untouched
    exact Environment.get?_unset_of_ne environment differs
  | _ => rfl

end Act

/-! ### Variables of a session -/

namespace Session
variable [Scalar α] {start session : Session} {acts : List (Act α φ)} {name value : Text}

theorem environment_loadSettings (session : Session) :
    (loadSettings session).2.environment = (takeOver session).2.environment := by
  rw [loadSettings_eq]
  rcases takeOver session with ⟨result,after⟩
  cases result <;> rfl

/-- An act that reads the settings takes variables over, any other changes no variable but by hand. -/
theorem environment_perform (act : Act α φ) (session : Session) :
    (act.perform session).environment =
      if act.reads session then (takeOver session).2.environment else act.byHand session.environment := by
  cases act with
  | set name value =>
    rw [Act.perform,setVariable,Act.byHand]
    cases session.environment.assign name value <;> rfl
  | load => exact environment_loadSettings session
  | call made =>
    rw [Act.perform,made.session_perform,Act.reads]
    by_cases needs : made.needsSettings
    · rw [if_pos needs,needs,Bool.true_and]
      cases cached : session.cached with
      | some kept => rw [settings_of_cached cached]; rfl
      | none => rw [settings_of_uncached cached]; exact environment_loadSettings session
    · rw [if_neg needs,Bool.eq_false_iff.mpr needs]
      rfl
  | _ => rfl

/-- The variables after some acts, as far as they are set and removed by hand. -/
def byHand (start : Session) (acts : List (Act α φ)) : Environment := acts.foldl Act.byHand start.environment

/-- A variable was taken over with a value by an act that read the settings, and no later act has set or removed it
    by hand. -/
def TakenOver (start : Session) (acts : List (Act α φ)) (name value : Text) : Prop :=
  ∃ early act late, acts = early ++ act :: late ∧ act.reads (start.after early) ∧
    (start.after early).TakesOver name value ∧ ∀ later ∈ late, ¬ later.touches name

theorem not_takenOver_nil : ¬ start.TakenOver ([] : List (Act α φ)) name value := by
  rintro ⟨early,act,late,split,-⟩
  cases early <;> cases split

theorem takenOver_concat {act : Act α φ} : start.TakenOver (acts ++ [act]) name value ↔
    (act.reads (start.after acts) ∧ (start.after acts).TakesOver name value) ∨
      (start.TakenOver acts name value ∧ ¬ act.touches name) := by
  constructor
  · rintro ⟨early,reading,late,split,reads,takes,untouched⟩
    cases late using List.reverseRecOn with
    | nil =>
      obtain ⟨rfl,last⟩ := List.append_inj' split rfl
      cases last
      exact .inl ⟨reads,takes⟩
    | append_singleton late last =>
      rw [← List.cons_append,← List.append_assoc] at split
      obtain ⟨rfl,isLast⟩ := List.append_inj' split rfl
      cases isLast
      refine .inr ⟨⟨early,reading,late,rfl,reads,takes,fun later member => ?_⟩,?_⟩
      · exact untouched later (List.mem_append_left _ member)
      · exact untouched act (List.mem_append_right _ List.mem_cons_self)
  · rintro (⟨reads,takes⟩ | ⟨⟨early,reading,late,rfl,reads,takes,untouched⟩,last⟩)
    · exact ⟨acts,act,[],rfl,reads,takes,fun _ member => (nomatch member)⟩
    · refine ⟨early,reading,late ++ [act],by simp,reads,takes,fun later member => ?_⟩
      obtain member | isLast := List.mem_append.mp member
      · exact untouched later member
      · exact List.mem_singleton.mp isLast ▸ last

omit [Scalar α] in
theorem byHand_concat (start : Session) (acts : List (Act α φ)) (act : Act α φ) :
    start.byHand (acts ++ [act]) = act.byHand (start.byHand acts) := List.foldl_concat ..

theorem after_concat (start : Session) (acts : List (Act α φ)) (act : Act α φ) :
    start.after (acts ++ [act]) = act.perform (start.after acts) := List.foldl_concat ..

/-- A variable has a value that was set by hand or one that was taken over. -/
theorem get?_after (start : Session) (acts : List (Act α φ)) (name value : Text) :
    (start.after acts).environment.get? name = some value ↔
      (start.byHand acts).get? name = some value ∨ start.TakenOver acts name value := by
  induction acts using List.reverseRecOn with
  | nil =>
    exact ⟨.inl,fun held => held.elim id fun taken => absurd taken not_takenOver_nil⟩
  | append_singleton acts act ih =>
    -- the last act sets or removes the variable by hand, or takes it over, or leaves it as it is
    rw [after_concat,byHand_concat,takenOver_concat,environment_perform]
    generalize start.after acts = now at ih ⊢
    by_cases touched : act.touches name
    · have unread : ¬ act.reads now := fun reads => Act.not_touches_of_reads reads touched
      rw [if_neg unread,Act.get?_byHand_self touched now.environment (start.byHand acts)]
      simp [unread,touched]
    rw [Act.get?_byHand_other touched]
    by_cases reads : act.reads now
    · rw [if_pos reads]
      constructor
      · intro holds
        cases before : now.environment.get? name with
        | none => exact .inr (.inl ⟨reads,before,holds⟩)
        | some kept =>
          rw [get?_takeOver_of_some before] at holds
          obtain hand | taken := ih.mp (before.trans holds)
          · exact .inl hand
          · exact .inr (.inr ⟨taken,touched⟩)
      · rintro (hand | ⟨-,-,got⟩ | ⟨taken,-⟩)
        · exact get?_takeOver_of_some (ih.mpr (.inl hand))
        · exact got
        · exact get?_takeOver_of_some (ih.mpr (.inr taken))
    · rw [if_neg reads,Act.get?_byHand_other touched,ih]
      simp [reads,touched]

/-- A variable has no value if it is neither set by hand nor taken over. -/
theorem get?_after_eq_none (start : Session) (acts : List (Act α φ)) (name : Text) :
    (start.after acts).environment.get? name = none ↔
      (start.byHand acts).get? name = none ∧ ∀ value, ¬ start.TakenOver acts name value := by
  simp only [Option.eq_none_iff_forall_ne_some,ne_eq,get?_after,not_or,forall_and]

/-- Only what is not set by hand is taken over. -/
theorem TakenOver.byHand_eq_none (taken : start.TakenOver acts name value) : (start.byHand acts).get? name = none := by
  induction acts using List.reverseRecOn with
  | nil => exact absurd taken not_takenOver_nil
  | append_singleton acts act ih =>
    rw [byHand_concat]
    obtain ⟨reads,unset,-⟩ | ⟨taken,untouched⟩ := takenOver_concat.mp taken
    · rw [Act.get?_byHand_other (Act.not_touches_of_reads reads)]
      exact ((get?_after_eq_none start acts name).mp unset).1
    · rw [Act.get?_byHand_other untouched]
      exact ih taken

/-! ### Settings that are read again -/

/-- The session after some acts as if no reading had taken any variable over. -/
def afterByHand (start : Session) (acts : List (Act α φ)) : Session :=
  { start.after acts with environment := start.byHand acts }

theorem settings_forget (session : Session) :
    Session.settings session.forget =
      ((loadSettings session).1,{ (loadSettings session).2 with cached := (loadSettings session).1.toOption }) := by
  rw [settings_of_uncached rfl,forget,loadSettings_withCached]

/-- A direct reading depends on no more of the variables than their values. -/
theorem loadSettings_congr {other : Environment} (same : session.environment.get? = other.get?) :
    (loadSettings session).1 = (loadSettings { session with environment := other }).1 := by
  obtain ⟨sameResult,sameValues⟩ := takeOver_congr same
  rw [loadSettings_eq,loadSettings_eq]
  rcases takes : takeOver session with ⟨result,after⟩
  rcases takesToo : takeOver { session with environment := other } with ⟨resultToo,afterToo⟩
  rw [takes,takesToo] at sameResult sameValues
  cases sameResult
  cases result with
  | ok done => exact Settings.read_congr sameValues _
  | error error => rfl

/-- Settings that are read right after the kept ones were forgotten. If a variable of the file is refused they cannot be
    read. Otherwise each variable has the value that was set by hand; or else one that an earlier reading has taken over
    from what was the file then, whatever the file gives now; or else the one that the file gives now. So if nothing is
    left over from earlier readings, they are what a first reading gives that finds the variables set by hand. -/
theorem settings_after_forget (start : Session) (acts : List (Act α φ)) :
    let now := start.after acts
    let outcome := Session.settings now.forget
    let left := outcome.2.environment
    (∀ error, (takeOver now).1 = .error error → outcome.1 = .error error) ∧
      ((takeOver now).1 = .ok () → outcome.1 = Settings.read start.processors left ∧
        ∀ name, (start.byHand acts).get? name = none → (∀ value, ¬ start.TakenOver acts name value) →
          left.get? name = now.fileValue? name) ∧
      (∀ name value, (start.byHand acts).get? name = some value → left.get? name = some value) ∧
      (∀ name value, start.TakenOver acts name value →
        (start.byHand acts).get? name = none ∧ left.get? name = some value ∧
          ∃ early, early <+: acts ∧ (start.after early).fileValue? name = some value) ∧
      ((∀ name value, ¬ start.TakenOver acts name value) →
        outcome.1 = (loadSettings (start.afterByHand acts)).1) := by
  intro now outcome left
  have outcomeIs : outcome = _ := settings_forget now
  have result : outcome.1 = (loadSettings now).1 := by rw [outcomeIs]
  have leftIs : left = (takeOver now).2.environment := by
    show outcome.2.environment = _
    rw [outcomeIs]
    exact environment_loadSettings now
  have stays : ∀ {name value}, now.environment.get? name = some value → left.get? name = some value :=
    fun isSet => leftIs ▸ get?_takeOver_of_some isSet
  have held := get?_after start acts
  have byTaking := loadSettings_eq now
  rw [processors_after acts start] at byTaking
  rcases takes : takeOver now with ⟨taking,after⟩
  rw [takes] at leftIs byTaking
  refine ⟨fun error refused => ?_,fun taken => ⟨?_,fun name unset nothing => ?_⟩,fun name value hand => ?_,
    fun name value taken => ⟨taken.byHand_eq_none,?_,?_⟩,fun nothing => ?_⟩
  · cases refused
    rw [result,byTaking]
  · cases taken
    rw [result,byTaking,leftIs]
  · cases taken
    have notHeld : now.environment.get? name = none := (get?_after_eq_none start acts name).mpr ⟨unset,nothing⟩
    rw [leftIs,get?_takeOver takes,notHeld,Option.none_or]
  · exact stays ((held name value).mpr (.inl hand))
  · exact stays ((held name value).mpr (.inr taken))
  · obtain ⟨early,act,late,rfl,-,takes,-⟩ := taken
    exact ⟨early,List.prefix_append early _,takes.fileValue?⟩
  · have same : now.environment.get? = (start.byHand acts).get? := by
      funext name
      apply Option.ext
      intro value
      rw [held,or_iff_left (nothing name value)]
    exact result.trans (loadSettings_congr same)

/-- Forty-two steps are taken over from a file, which then gives forty-three: they are not what is read again, as they
    would be if the file had given them from the beginning. -/
theorem stale_after_forget :
    let steps := Variable.stepLimit.name
    let acts : List (Act Rat Empty) := [.putFile 0 (some (lit "BF_STEP_LIMIT=42")),.call .settings,
      .putFile 0 (some (lit "BF_STEP_LIMIT=43"))]
    let start := Session.empty 4
    let now := start.after acts
    (start.byHand acts).get? steps = none ∧ now.fileValue? steps = some (lit "43") ∧
      (loadSettings (start.afterByHand acts)).1 = .ok ⟨43,1000000,true,3⟩ ∧
      (Session.settings now.forget).1 = .ok ⟨42,1000000,true,3⟩ := by
  decide +kernel

end Session

end TapeArena
