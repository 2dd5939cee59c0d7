import TapeArena.Proofs.Histories
import TapeArena.Proofs.SmallLetters
import TapeArena.Proofs.Traversals

/-!
Settings that variables override. A variable that is not set or blank gives the default, any other one has to write a
natural number or to be a word for yes or no (`Settings.States`); otherwise it is at fault (`Settings.Misstates`).
Settings can be read if and only if no variable is at fault, and otherwise the first one that is is reported
(`Settings.read_eq_ok_iff`, `Settings.read_eq_error_iff`). Without a file of variables this is what loading does
(`Session.loadSettings_variables`).
-/
namespace TapeArena

def Variable.order : List Variable := [.stepLimit,.outputLimit,.parallel,.processes]

namespace Settings
open Traversal
variable {environment : Environment} {v : Variable} {raw : Text} {settings : Settings} {error : SettingError}

/-! ### Values of variables -/

/-- A variable is not set, or blank. -/
def Absent (environment : Environment) (v : Variable) : Prop :=
  ∀ raw, environment.get? v.name = some raw → ∀ c ∈ raw, c.isBlank

/-- A variable has a value that is not blank. -/
def Holds (environment : Environment) (v : Variable) (raw : Text) : Prop :=
  environment.get? v.name = some raw ∧ ∃ c ∈ raw, ¬ c.isBlank

theorem strip_eq_nil_iff : raw.strip = [] ↔ ∀ c ∈ raw, c.isBlank := Text.trim_eq_nil_iff

theorem raw?_eq_some_iff : raw? environment v = some raw ↔ Holds environment v raw := by
  rw [raw?,Option.filter_eq_some_iff,Holds]
  refine and_congr_right fun _ => ?_
  rw [Bool.not_eq_true',Bool.eq_false_iff,ne_eq,List.isEmpty_iff,strip_eq_nil_iff]
  simp

theorem raw?_eq_none_iff : raw? environment v = none ↔ Absent environment v := by
  rw [raw?,Option.filter_eq_none_iff,Absent]
  refine forall₂_congr fun raw isSet => ?_
  rw [← strip_eq_nil_iff]
  simp

theorem absent_or_holds (environment : Environment) (v : Variable) :
    Absent environment v ∨ ∃ raw, Holds environment v raw := by
  cases found : raw? environment v with
  | none => exact .inl (raw?_eq_none_iff.mp found)
  | some raw => exact .inr ⟨raw,raw?_eq_some_iff.mp found⟩

/-! ### Numbers -/

/-- The number that a variable gives: the default, or the one that it writes. -/
inductive GivesNat (environment : Environment) (v : Variable) (otherwise : Nat) : Nat → Prop
  | absent (absent : Absent environment v) : GivesNat environment v otherwise otherwise
  | written {raw : Text} {n : Nat} (isSet : environment.get? v.name = some raw) (writes : Decimal.Writes raw n) :
    GivesNat environment v otherwise n

/-- A variable is not set or blank, or else it writes a natural number. -/
def StatesNat (environment : Environment) (v : Variable) : Prop :=
  Absent environment v ∨ ∃ raw, ∃ n : Nat, environment.get? v.name = some raw ∧ Decimal.Writes raw n

/-- Why a variable gives no number: it writes none, or a negative one. -/
inductive MisstatesNat (environment : Environment) (v : Variable) : SettingError → Prop
  | notWhole {raw : Text} (holds : Holds environment v raw) (unwritten : ∀ n, ¬ Decimal.Writes raw n) :
    MisstatesNat environment v (.notWhole v raw)
  | negative {raw : Text} {n : Int} (isSet : environment.get? v.name = some raw) (writes : Decimal.Writes raw n)
    (below : n < 0) : MisstatesNat environment v (.negative v n)

theorem readNat_of_absent (absent : Absent environment v) (otherwise : Nat) :
    readNat environment v otherwise = .ok otherwise := by
  rw [readNat,raw?_eq_none_iff.mpr absent]
theorem readNat_of_holds (holds : Holds environment v raw) (otherwise : Nat) : readNat environment v otherwise =
    match Decimal.int? raw with
    | none => .error (.notWhole v raw)
    | some (.ofNat n) => .ok n
    | some (.negSucc n) => .error (.negative v (.negSucc n)) := by
  rewrite [readNat,raw?_eq_some_iff.mpr holds]
  rfl

theorem decides_readNat (v : Variable) (otherwise : Nat) :
    Decides (readNat · v otherwise) (GivesNat · v otherwise) (MisstatesNat · v) := by
  refine .of_outcomes (fun environment => ?_) (fun environment n gives => ?_) (fun environment error misstates => ?_)
  · rcases absent_or_holds environment v with absent | ⟨raw,holds⟩
    · exact .inl ⟨otherwise,readNat_of_absent absent otherwise,.absent absent⟩
    · simp only [readNat_of_holds holds]
      cases read : Decimal.int? raw with
      | none =>
        have unwritten : ∀ n, ¬ Decimal.Writes raw n := fun n writes => by
          cases read.symm.trans (Decimal.int?_eq_some_iff.mpr writes)
        exact .inr ⟨_,rfl,.notWhole holds unwritten⟩
      | some value =>
        have writes := Decimal.int?_eq_some_iff.mp read
        cases value with
        | ofNat n => exact .inl ⟨n,rfl,.written holds.1 writes⟩
        | negSucc n => exact .inr ⟨_,rfl,.negative holds.1 writes (Int.negSucc_lt_zero n)⟩
  · cases gives with
    | absent absent => exact readNat_of_absent absent otherwise
    | written isSet writes =>
      have read := Decimal.int?_eq_some_iff.mpr writes
      simp only [readNat_of_holds ⟨isSet,writes.not_blank⟩,read]
  · cases misstates with
    | notWhole holds unwritten =>
      have unread : Decimal.int? _ = none :=
        Option.eq_none_iff_forall_ne_some.mpr fun n read => unwritten n (Decimal.int?_eq_some_iff.mp read)
      simp only [readNat_of_holds holds,unread]
    | negative isSet writes below =>
      obtain ⟨n,rfl⟩ := Int.eq_negSucc_of_lt_zero below
      simp only [readNat_of_holds ⟨isSet,writes.not_blank⟩,Decimal.int?_eq_some_iff.mpr writes]

/-! ### Flags -/

/-- The flag that a variable gives: the default, or the one that it has a word for. -/
inductive GivesFlag (environment : Environment) (v : Variable) (otherwise : Bool) : Bool → Prop
  | absent (absent : Absent environment v) : GivesFlag environment v otherwise otherwise
  | yes {raw : Text} (isSet : environment.get? v.name = some raw) (word : raw.strip.lower ∈ affirmative) :
    GivesFlag environment v otherwise true
  | no {raw : Text} (isSet : environment.get? v.name = some raw) (word : raw.strip.lower ∈ negative) :
    GivesFlag environment v otherwise false

/-- A variable is not set or blank, or else it has a word for yes or no. -/
def StatesFlag (environment : Environment) (v : Variable) : Prop :=
  Absent environment v ∨ ∃ raw, environment.get? v.name = some raw ∧ raw.strip.lower ∈ affirmative ++ negative

/-- Why a variable gives no flag: it has a word for neither. -/
inductive MisstatesFlag (environment : Environment) (v : Variable) : SettingError → Prop
  | notFlag {raw : Text} (holds : Holds environment v raw) (noWord : raw.strip.lower ∉ affirmative ++ negative) :
    MisstatesFlag environment v (.notFlag v raw)

theorem plain_words : ∀ word ∈ affirmative ++ negative, ∀ d ∈ word, d.IsPlain := by
  have all : ∀ word ∈ affirmative ++ negative, word.all fun d => decide d.IsPlain := by decide
  intro word member d inWord
  exact of_decide_eq_true (List.all_eq_true.mp (all word member) d inWord)

/-- The words know no letter k, so it does not matter that reading replaces the Latin capitals only. -/
theorem contains_affirmative : affirmative.contains (raw.strip.map CodePoint.lower) ↔ raw.strip.lower ∈ affirmative := by
  rw [List.contains_iff_mem,Text.lower_mem_iff fun word member => plain_words word (List.mem_append_left _ member)]
theorem contains_negative : negative.contains (raw.strip.map CodePoint.lower) ↔ raw.strip.lower ∈ negative := by
  rw [List.contains_iff_mem,Text.lower_mem_iff fun word member => plain_words word (List.mem_append_right _ member)]

theorem words_disjoint : ∀ word ∈ negative, word ∉ affirmative := by decide

theorem not_blank_of_word (word : raw.strip.lower ∈ affirmative ++ negative) : ∃ c ∈ raw, ¬ c.isBlank := by
  by_contra blank
  have allBlank : ∀ c ∈ raw, c.isBlank := by simpa using blank
  rw [strip_eq_nil_iff.mpr allBlank] at word
  revert word
  decide

theorem readFlag_of_absent (absent : Absent environment v) (otherwise : Bool) :
    readFlag environment v otherwise = .ok otherwise := by
  rw [readFlag,raw?_eq_none_iff.mpr absent]
/-- A value that is not blank has a word for yes, or one for no, or is at fault. -/
theorem readFlag_of_holds (holds : Holds environment v raw) (otherwise : Bool) :
    (raw.strip.lower ∈ affirmative → readFlag environment v otherwise = .ok true) ∧
    (raw.strip.lower ∈ negative → readFlag environment v otherwise = .ok false) ∧
    (raw.strip.lower ∉ affirmative ++ negative → readFlag environment v otherwise = .error (.notFlag v raw)) := by
  rw [readFlag,raw?_eq_some_iff.mpr holds]
  refine ⟨fun yes => ?_,fun no => ?_,fun neither => ?_⟩
  · exact if_pos (contains_affirmative.mpr yes)
  · have notYes := words_disjoint _ no
    rw [← contains_affirmative] at notYes
    exact (if_neg notYes).trans (if_pos (contains_negative.mpr no))
  · rw [List.mem_append,not_or,← contains_affirmative,← contains_negative] at neither
    exact (if_neg neither.1).trans (if_neg neither.2)

theorem decides_readFlag (v : Variable) (otherwise : Bool) :
    Decides (readFlag · v otherwise) (GivesFlag · v otherwise) (MisstatesFlag · v) := by
  refine .of_outcomes (fun environment => ?_) (fun environment flag gives => ?_) (fun environment error misstates => ?_)
  · rcases absent_or_holds environment v with absent | ⟨raw,holds⟩
    · exact .inl ⟨otherwise,readFlag_of_absent absent otherwise,.absent absent⟩
    · obtain ⟨onYes,onNo,onNeither⟩ := readFlag_of_holds holds otherwise
      by_cases word : raw.strip.lower ∈ affirmative ++ negative
      · rcases List.mem_append.mp word with yes | no
        · exact .inl ⟨true,onYes yes,.yes holds.1 yes⟩
        · exact .inl ⟨false,onNo no,.no holds.1 no⟩
      · exact .inr ⟨_,onNeither word,.notFlag holds word⟩
  · cases gives with
    | absent absent => exact readFlag_of_absent absent otherwise
    | yes isSet word =>
      have notBlank := not_blank_of_word (List.mem_append_left negative word)
      exact (readFlag_of_holds ⟨isSet,notBlank⟩ otherwise).1 word
    | no isSet word =>
      have notBlank := not_blank_of_word (List.mem_append_right affirmative word)
      exact (readFlag_of_holds ⟨isSet,notBlank⟩ otherwise).2.1 word
  · obtain ⟨holds,noWord⟩ := misstates
    exact (readFlag_of_holds holds otherwise).2.2 noWord

/-! ### All variables -/

/-- What a variable has to say, so that it can be read. -/
def States (environment : Environment) : Variable → Prop
  | .parallel => StatesFlag environment .parallel
  | v => StatesNat environment v

/-- What is reported of a variable at fault. -/
def Misstates (environment : Environment) : Variable → SettingError → Prop
  | .parallel => MisstatesFlag environment .parallel
  | v => MisstatesNat environment v

/-- Settings as the variables give them on a machine with some processors; there is at least one process. -/
structure Gives (processors : Nat) (environment : Environment) (settings : Settings) : Prop where
  stepLimit : GivesNat environment .stepLimit (default processors).stepLimit settings.stepLimit
  outputLimit : GivesNat environment .outputLimit (default processors).outputLimit settings.outputLimit
  parallel : GivesFlag environment .parallel (default processors).parallel settings.parallel
  processes : ∃ n, GivesNat environment .processes (default processors).processes n ∧ settings.processes = max 1 n

theorem exists_givesNat_iff {otherwise : Nat} : (∃ n, GivesNat environment v otherwise n) ↔ StatesNat environment v := by
  constructor
  · rintro ⟨n,absent | ⟨isSet,writes⟩⟩
    · exact .inl absent
    · exact .inr ⟨_,n,isSet,writes⟩
  · rintro (absent | ⟨raw,n,isSet,writes⟩)
    · exact ⟨otherwise,.absent absent⟩
    · exact ⟨n,.written isSet writes⟩

theorem exists_givesFlag_iff {otherwise : Bool} :
    (∃ flag, GivesFlag environment v otherwise flag) ↔ StatesFlag environment v := by
  constructor
  · rintro ⟨flag,absent | ⟨isSet,word⟩ | ⟨isSet,word⟩⟩
    · exact .inl absent
    · exact .inr ⟨_,isSet,List.mem_append_left _ word⟩
    · exact .inr ⟨_,isSet,List.mem_append_right _ word⟩
  · rintro (absent | ⟨raw,isSet,word⟩)
    · exact ⟨otherwise,.absent absent⟩
    · rcases List.mem_append.mp word with yes | no
      · exact ⟨true,.yes isSet yes⟩
      · exact ⟨false,.no isSet no⟩

theorem readNat_succeeds_iff {otherwise : Nat} :
    (∃ n, readNat environment v otherwise = .ok n) ↔ StatesNat environment v :=
  (exists_congr fun _ => (decides_readNat v otherwise).ok_iff).trans exists_givesNat_iff
theorem readFlag_succeeds_iff {otherwise : Bool} :
    (∃ flag, readFlag environment v otherwise = .ok flag) ↔ StatesFlag environment v :=
  (exists_congr fun _ => (decides_readFlag v otherwise).ok_iff).trans exists_givesFlag_iff

theorem read_eq_ok_iff {processors : Nat} :
    read processors environment = .ok settings ↔ Gives processors environment settings := by
  simp only [read,bind_eq_ok_iff,(decides_readNat _ _).ok_iff,(decides_readFlag _ _).ok_iff]
  constructor
  · rintro ⟨steps,stepLimit,output,outputLimit,flag,parallel,n,processes,is⟩
    cases is
    exact ⟨stepLimit,outputLimit,parallel,n,processes,rfl⟩
  · rintro ⟨stepLimit,outputLimit,parallel,n,processes,atLeastOne⟩
    refine ⟨_,stepLimit,_,outputLimit,_,parallel,n,processes,?_⟩
    rw [← atLeastOne]
    rfl

/-- The variables are read in order, and the first one at fault is reported. -/
theorem read_eq_error_iff {processors : Nat} : read processors environment = .error error ↔
    FirstFault (States environment) (Misstates environment) Variable.order error := by
  refine FirstFault.bind_iff readNat_succeeds_iff (decides_readNat .stepLimit _).error_iff fun steps => ?_
  refine FirstFault.bind_iff readNat_succeeds_iff (decides_readNat .outputLimit _).error_iff fun output => ?_
  refine FirstFault.bind_iff readFlag_succeeds_iff (decides_readFlag .parallel _).error_iff fun flag => ?_
  refine FirstFault.bind_iff readNat_succeeds_iff (decides_readNat .processes _).error_iff fun n => ?_
  exact iff_of_false nofun nofun

theorem read_succeeds_iff {processors : Nat} :
    (∃ settings, read processors environment = .ok settings) ↔ ∀ v, States environment v := by
  constructor
  · rintro ⟨settings,read⟩ v
    obtain ⟨stepLimit,outputLimit,parallel,n,processes,-⟩ := read_eq_ok_iff.mp read
    cases v with
    | stepLimit => exact exists_givesNat_iff.mp ⟨_,stepLimit⟩
    | outputLimit => exact exists_givesNat_iff.mp ⟨_,outputLimit⟩
    | parallel => exact exists_givesFlag_iff.mp ⟨_,parallel⟩
    | processes => exact exists_givesNat_iff.mp ⟨n,processes⟩
  · intro states
    obtain ⟨steps,stepLimit⟩ := exists_givesNat_iff.mpr (states .stepLimit)
    obtain ⟨output,outputLimit⟩ := exists_givesNat_iff.mpr (states .outputLimit)
    obtain ⟨flag,parallel⟩ := exists_givesFlag_iff.mpr (states .parallel)
    obtain ⟨n,processes⟩ := exists_givesNat_iff.mpr (states .processes)
    exact ⟨⟨steps,output,flag,max 1 n⟩,read_eq_ok_iff.mpr ⟨stepLimit,outputLimit,parallel,n,processes,rfl⟩⟩

theorem exists_misstates (unsound : ¬ States environment v) : ∃ error, Misstates environment v error := by
  cases v with
  | parallel =>
    rcases (decides_readFlag .parallel false).accepts_or_refuses environment with gives | misstates
    · exact absurd (exists_givesFlag_iff.mp gives) unsound
    · exact misstates
  | stepLimit | outputLimit | processes =>
    rcases (decides_readNat _ 0).accepts_or_refuses environment with gives | misstates
    · exact absurd (exists_givesNat_iff.mp gives) unsound
    · exact misstates

/-- What is reported of a variable begins with its name. -/
theorem Misstates.names (misstates : Misstates environment v error) :
    ∃ words, error.message = v.name ++ lit " must be " ++ words := by
  have number {v : Variable} {error : SettingError} (misstates : MisstatesNat environment v error) :
      ∃ words, error.message = v.name ++ lit " must be " ++ words := by
    cases misstates with
    | @notWhole raw => exact ⟨lit "an integer, got " ++ Text.quoted raw,by simp [SettingError.message,lit]⟩
    | @negative raw n => exact ⟨lit "non-negative, got " ++ Text.ofInt n,by simp [SettingError.message,lit]⟩
  cases v with
  | parallel =>
    obtain ⟨holds,noWord⟩ := misstates
    rename_i raw
    exact ⟨lit "a boolean flag, got " ++ Text.quoted raw,by simp [SettingError.message,lit]⟩
  | stepLimit | outputLimit | processes => exact number misstates

/-! ### One variable, one field -/

/-- Two settings agree in the field that a variable gives. -/
def AgreeOn (one other : Settings) : Variable → Prop
  | .stepLimit => one.stepLimit = other.stepLimit
  | .outputLimit => one.outputLimit = other.outputLimit
  | .parallel => one.parallel = other.parallel
  | .processes => one.processes = other.processes

section
variable {one other : Environment} (same : one.get? v.name = other.get? v.name)
include same

theorem raw?_congr : raw? one v = raw? other v := by rw [raw?,raw?,same]

theorem GivesNat.unique {otherwise m n : Nat} (gives : GivesNat one v otherwise m)
    (givesToo : GivesNat other v otherwise n) : m = n := by
  have read := (decides_readNat v otherwise).ok_iff.mpr gives
  have readToo := (decides_readNat v otherwise).ok_iff.mpr givesToo
  have alike : readNat one v otherwise = readNat other v otherwise := by rw [readNat,readNat,raw?_congr same]
  cases read.symm.trans (alike.trans readToo)
  rfl
theorem GivesFlag.unique {otherwise flag flagToo : Bool} (gives : GivesFlag one v otherwise flag)
    (givesToo : GivesFlag other v otherwise flagToo) : flag = flagToo := by
  have read := (decides_readFlag v otherwise).ok_iff.mpr gives
  have readToo := (decides_readFlag v otherwise).ok_iff.mpr givesToo
  have alike : readFlag one v otherwise = readFlag other v otherwise := by rw [readFlag,readFlag,raw?_congr same]
  cases read.symm.trans (alike.trans readToo)
  rfl

/-- Of all fields only the processes depend on the machine, if their variable is absent. -/
theorem Gives.agreeOn {here there : Nat} {settings others : Settings} (gives : Gives here one settings)
    (givesToo : Gives there other others) (machine : v = .processes → there = here) : settings.AgreeOn others v := by
  cases v with
  | stepLimit => exact gives.stepLimit.unique same givesToo.stepLimit
  | outputLimit => exact gives.outputLimit.unique same givesToo.outputLimit
  | parallel => exact gives.parallel.unique same givesToo.parallel
  | processes =>
    obtain rfl := machine rfl
    obtain ⟨m,processes,is⟩ := gives.processes
    obtain ⟨n,processesToo,isToo⟩ := givesToo.processes
    show settings.processes = others.processes
    rw [is,isToo,processes.unique same processesToo]

end

end Settings

/-! ### Loading -/

namespace Session
open Settings Traversal

/-- Without a file of variables, loading reads those that are set. -/
theorem loadSettings_of_noFile {session : Session} (noFile : session.nearest? = none) :
    loadSettings session = (Settings.read session.processors session.environment,session) := by
  have nothing : session.effective? = none := by
    rw [effective?,noFile,ite_self]
  rw [loadSettings_eq,takeOver,nothing]

/-- Settings without a file of variables. They are loaded if and only if every variable can be read, each field from its
    own variable alone (the processes also from the machine), and every rendering of a natural number as that number.
    Otherwise the first variable at fault is named, whatever those behind it hold. The session stays as it is. -/
theorem loadSettings_variables (session : Session) (noFile : session.nearest? = none) :
    let environment := session.environment
    let outcome := loadSettings session
    outcome.2 = session ∧
    ((∃ settings, outcome.1 = .ok settings) ↔ ∀ v, States environment v) ∧
    (∀ v n raw, v ≠ .parallel → Decimal.Renders n raw → environment.get? v.name = some raw → States environment v) ∧
    (∀ settings, outcome.1 = .ok settings → Gives session.processors environment settings ∧
      (∀ n raw, Decimal.Renders n raw →
        (environment.get? Variable.stepLimit.name = some raw → settings.stepLimit = n) ∧
        (environment.get? Variable.outputLimit.name = some raw → settings.outputLimit = n) ∧
        (environment.get? Variable.processes.name = some raw → settings.processes = max 1 n)) ∧
      ∀ (other : Session) (others : Settings), other.nearest? = none → (loadSettings other).1 = .ok others →
        ∀ v, environment.get? v.name = other.environment.get? v.name →
          (v = .processes → other.processors = session.processors) → settings.AgreeOn others v) ∧
    ∀ earlier v later, Variable.order = earlier ++ v :: later → (∀ w ∈ earlier, States environment w) →
      ¬ States environment v → ∃ error words, outcome.1 = .error error ∧ Misstates environment v error ∧
        error.message = v.name ++ lit " must be " ++ words := by
  intro environment outcome
  have outcomeIs : outcome = _ := loadSettings_of_noFile noFile
  rw [outcomeIs]
  refine ⟨rfl,read_succeeds_iff,?_,?_,?_⟩
  · intro v n raw numeric renders isSet
    have states : StatesNat environment v := .inr ⟨raw,n,isSet,renders.writes⟩
    cases v with
    | parallel => exact absurd rfl numeric
    | stepLimit | outputLimit | processes => exact states
  · intro settings read
    have gives := read_eq_ok_iff.mp read
    refine ⟨gives,fun n raw renders => ⟨fun isSet => ?_,fun isSet => ?_,fun isSet => ?_⟩,?_⟩
    · exact gives.stepLimit.unique rfl (.written isSet renders.writes)
    · exact gives.outputLimit.unique rfl (.written isSet renders.writes)
    · obtain ⟨m,processes,is⟩ := gives.processes
      rw [is,processes.unique rfl (.written isSet renders.writes)]
    · intro other others otherNoFile otherRead v same machine
      rw [loadSettings_of_noFile otherNoFile] at otherRead
      exact gives.agreeOn same (read_eq_ok_iff.mp otherRead) machine
  · intro earlier v later split sound unsound
    obtain ⟨error,misstates⟩ := exists_misstates unsound
    obtain ⟨words,message⟩ := misstates.names
    have first : FirstFault (States environment) (Misstates environment) (earlier ++ v :: later) error :=
      .of_split sound misstates
    exact ⟨error,words,read_eq_error_iff.mpr (split ▸ first),misstates,message⟩

/-- Digits of two scripts with a space, a plus sign, a zero, an underscore and a tab give the steps. The output limit is
    named, although the flag behind it cannot be read either. -/
theorem loadSettings_variables_mixed :
    let written : Session := ⟨4,[(Variable.stepLimit.name,lit " +0\u0664_2\t")],[],none⟩
    let misstated : Session :=
      ⟨4,[(Variable.parallel.name,lit "maybe"),(Variable.outputLimit.name,lit "lots")],[],none⟩
    (∃ settings, (loadSettings written).1 = .ok settings ∧ settings.stepLimit = 42) ∧
    ∃ error words, (loadSettings misstated).1 = .error error ∧
      error.message = lit "BF_OUTPUT_LIMIT must be " ++ words := by
  intro written misstated
  have renders : Decimal.Renders 42 (lit " +0\u0664_2\t") := by
    have zero : Decimal.IsDigit (.ofChar '0') 0 := Decimal.digit?_eq_some_iff.mp (by decide)
    have four : Decimal.IsDigit (.ofChar '\u0664') 4 := Decimal.digit?_eq_some_iff.mp (by decide)
    have two : Decimal.IsDigit (.ofChar '2') 2 := Decimal.digit?_eq_some_iff.mp (by decide)
    have space : ∀ c ∈ lit " ", c.is ' ' ∨ c.is '\t' := List.forall_mem_singleton.mpr (.inl rfl)
    have tab : ∀ c ∈ lit "\t", c.is ' ' ∨ c.is '\t' := List.forall_mem_singleton.mpr (.inr rfl)
    exact .mk space (.inr rfl) (.next zero (.apart four (.last two))) (by decide) rfl tab
  have absent {environment : Environment} {v : Variable} (unset : environment.get? v.name = none) :
      Absent environment v := fun raw isSet => by cases unset.symm.trans isSet
  constructor
  · obtain ⟨-,succeeds,read,gives,-⟩ := loadSettings_variables written rfl
    have states : ∀ v, States written.environment v := by
      intro v
      cases v with
      | stepLimit => exact read .stepLimit 42 _ nofun renders rfl
      | outputLimit | parallel | processes => exact .inl (absent rfl)
    obtain ⟨settings,loaded⟩ := succeeds.mpr states
    obtain ⟨-,numbers,-⟩ := gives settings loaded
    exact ⟨settings,loaded,(numbers 42 _ renders).1 rfl⟩
  · obtain ⟨-,-,-,-,faults⟩ := loadSettings_variables misstated rfl
    have stepLimit : States misstated.environment .stepLimit := .inl (absent rfl)
    have outputLimit : ¬ States misstated.environment .outputLimit := by
      rintro (blank | ⟨raw,n,isSet,writes⟩)
      · exact absurd (blank _ rfl (.ofChar 'l') List.mem_cons_self) (by decide)
      · cases isSet
        cases (Decimal.int?_eq_some_iff.mpr writes).symm.trans (by decide : Decimal.int? (lit "lots") = none)
    obtain ⟨error,words,loaded,-,message⟩ :=
      faults [.stepLimit] .outputLimit [.parallel,.processes] rfl (by simpa using stepLimit) outputLimit
    exact ⟨error,words,loaded,message⟩

end Session

end TapeArena
