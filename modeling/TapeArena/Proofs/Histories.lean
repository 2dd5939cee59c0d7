import TapeArena.Proofs.Consultations

/-!
Sessions over time. Whatever else is done in a session, the settings that are kept are those that the first successful
reading through the cache gave since they were forgotten last (`cached_after`), so all calls that need settings work
under these (`call_after`). A reading that fails leaves nothing behind for the next call but the variables it took over.
-/
namespace TapeArena
variable {α φ : Type} [Scalar α]

/-! ### Acts -/

/-- What can be done in a session: variables and files of variables change, the settings are read directly, those that
    are kept are forgotten, or a call is made. -/
inductive Act (α φ : Type)
  | set (name value : Text)
  | unset (name : Text)
  | putFile (up : Nat) (file : Option Text)
  | load
  | forget
  | call (made : Call α φ)

namespace Act

def perform (session : Session) : Act α φ → Session
  | .set name value => (Session.setVariable name value session).2
  | .unset name => session.unsetVariable name
  | .putFile up file => session.putFile up file
  | .load => (Session.loadSettings session).2
  | .forget => session.forget
  | .call made => (made.perform session).2

/-- An act takes the settings of the session. -/
def consults : Act α φ → Bool
  | .call made => made.needsSettings
  | _ => false

end Act

namespace Session
variable {session : Session}

def after (session : Session) (acts : List (Act α φ)) : Session := acts.foldl Act.perform session

/-- The settings that the first act gets which consults them and at whose time they can be read. -/
def firstRead? (session : Session) : List (Act α φ) → Option Settings
  | [] => none
  | act :: rest =>
    let read := if act.consults then (loadSettings session).1.toOption else none
    read.or ((act.perform session).firstRead? rest)

theorem after_append (session : Session) (acts more : List (Act α φ)) :
    session.after (acts ++ more) = (session.after acts).after more := List.foldl_append

theorem firstRead?_append (session : Session) (acts more : List (Act α φ)) :
    session.firstRead? (acts ++ more) = (session.firstRead? acts).or ((session.after acts).firstRead? more) := by
  induction acts generalizing session with
  | nil => rfl
  | cons act rest ih =>
    rw [List.cons_append,firstRead?,firstRead?,ih,Option.or_assoc]
    rfl

end Session

/-! ### Readings and the cache -/

namespace Session

theorem processors_takeOver (session : Session) : (takeOver session).2.processors = session.processors := by
  rw [takeOver]
  cases session.effective? <;> rfl

/-- A direct reading takes over the variables of a file first; if that fails, nothing is read. -/
theorem loadSettings_eq (session : Session) :
    loadSettings session =
      match takeOver session with
      | (.ok (),after) => (Settings.read session.processors after.environment,after)
      | (.error error,after) => (.error error,after) := by
  have machine := processors_takeOver session
  rcases takes : takeOver session with ⟨result,after⟩
  rw [takes] at machine
  cases result with
  | ok done =>
    cases done
    rw [← machine]
    refine (TapeArena.Action.bind_of_ok takes).trans (TapeArena.Action.bind_get.trans ?_)
    show _ = (Settings.read after.processors after.environment,after)
    cases Settings.read after.processors after.environment <;> rfl
  | error error => exact TapeArena.Action.bind_of_error takes

theorem takeOver_withCached (session : Session) (kept : Option Settings) :
    takeOver { session with cached := kept } =
      ((takeOver session).1,{ (takeOver session).2 with cached := kept }) := by
  have sameFile : effective? { session with cached := kept } = session.effective? := rfl
  rw [takeOver,takeOver,sameFile]
  cases session.effective? <;> rfl

/-- A direct reading neither looks at the settings that are kept nor changes them. -/
theorem loadSettings_withCached (session : Session) (kept : Option Settings) :
    loadSettings { session with cached := kept } =
      ((loadSettings session).1,{ (loadSettings session).2 with cached := kept }) := by
  rw [loadSettings_eq,loadSettings_eq,takeOver_withCached]
  rcases takeOver session with ⟨result,after⟩
  cases result <;> rfl

theorem cached_loadSettings (session : Session) : (loadSettings session).2.cached = session.cached :=
  congrArg (fun outcome => outcome.2.cached) (loadSettings_withCached session session.cached)

theorem processors_loadSettings (session : Session) : (loadSettings session).2.processors = session.processors := by
  have machine := processors_takeOver session
  rw [loadSettings_eq]
  rcases takes : takeOver session with ⟨result,after⟩
  rw [takes] at machine
  cases result <;> exact machine

theorem settings_of_uncached {session : Session} (uncached : session.cached = none) :
    Session.settings session =
      ((loadSettings session).1,{ (loadSettings session).2 with cached := (loadSettings session).1.toOption }) := by
  have still : (loadSettings session).2.cached = none := (cached_loadSettings session).trans uncached
  rw [Session.settings,TapeArena.Action.bind_get]
  simp only [uncached]
  rcases loads : loadSettings session with ⟨result,after⟩
  rw [loads] at still
  cases result with
  | ok settings => exact (TapeArena.Action.bind_of_ok loads).trans rfl
  | error error =>
    refine (TapeArena.Action.bind_of_error loads).trans ?_
    cases after
    cases still
    rfl

theorem processors_settings (session : Session) : (Session.settings session).2.processors = session.processors := by
  cases cached : session.cached with
  | some kept => rw [settings_of_cached cached]
  | none =>
    rw [settings_of_uncached cached]
    exact processors_loadSettings session
theorem cached_settings (session : Session) :
    (Session.settings session).2.cached = session.cached.or (loadSettings session).1.toOption := by
  cases cached : session.cached with
  | some kept => rw [settings_of_cached cached,cached,Option.some_or]
  | none => rw [settings_of_uncached cached,Option.none_or]

end Session

/-- A call looks at no more of a session than its settings, and at those only if it needs them. -/
theorem Call.session_perform (call : Call α φ) (session : Session) :
    (call.perform session).2 = if call.needsSettings then (Session.settings session).2 else session := by
  by_cases needs : call.needsSettings
  · rw [if_pos needs,call.perform_consulting needs,Session.consult]
    rcases Session.settings session with ⟨result,after⟩
    cases result <;> rfl
  · rw [if_neg needs,call.perform_other needs session (.default 1)]

/-- A call that needs settings works under those that are kept or else can be read. -/
theorem Call.perform_of_read {call : Call α φ} (needs : call.needsSettings) {session : Session} {settings : Settings}
    (read : session.cached.or (Session.loadSettings session).1.toOption = some settings) :
    (call.perform session).1 = call.under settings := by
  rw [call.perform_consulting needs,Session.consult]
  cases cached : session.cached with
  | some kept =>
    rw [cached,Option.some_or] at read
    cases read
    rw [Session.settings_of_cached cached]
  | none =>
    rw [cached,Option.none_or] at read
    rw [Session.settings_of_uncached cached]
    cases loads : (Session.loadSettings session).1 with
    | ok loaded =>
      rw [loads] at read
      cases read
      rfl
    | error error =>
      rw [loads] at read
      cases read

theorem Call.perform_of_unread {call : Call α φ} (needs : call.needsSettings) {session : Session}
    (unread : session.cached.or (Session.loadSettings session).1.toOption = none) :
    ∃ error, (Session.loadSettings session).1 = .error error ∧ (call.perform session).1 = call.refused error := by
  obtain ⟨uncached,fails⟩ := Option.or_eq_none_iff.mp unread
  rw [call.perform_consulting needs,Session.consult,Session.settings_of_uncached uncached]
  cases loads : (Session.loadSettings session).1 with
  | ok loaded =>
    rw [loads] at fails
    cases fails
  | error error => exact ⟨error,rfl,rfl⟩

/-- What is kept after an act that does not forget it: what was kept before, or else what the act got to read. -/
theorem Act.cached_perform {act : Act α φ} (keeps : act ≠ .forget) (session : Session) :
    (act.perform session).cached =
      session.cached.or (if act.consults then (Session.loadSettings session).1.toOption else none) := by
  cases act with
  | set name value =>
    rw [perform,Session.setVariable]
    cases session.environment.assign name value <;> exact (Option.or_none ..).symm
  | unset name => exact (Option.or_none ..).symm
  | putFile up file => exact (Option.or_none ..).symm
  | load => exact (Session.cached_loadSettings session).trans (Option.or_none ..).symm
  | forget => exact absurd rfl keeps
  | call made =>
    rw [perform,made.session_perform,consults]
    by_cases needs : made.needsSettings
    · rw [if_pos needs,if_pos needs,Session.cached_settings]
    · rw [if_neg needs,if_neg needs,Option.or_none]

/-- No act changes the machine. -/
theorem Act.processors_perform (act : Act α φ) (session : Session) :
    (act.perform session).processors = session.processors := by
  cases act with
  | set name value =>
    rw [perform,Session.setVariable]
    cases session.environment.assign name value <;> rfl
  | load => exact Session.processors_loadSettings session
  | call made =>
    rw [perform,made.session_perform]
    by_cases needs : made.needsSettings
    · rw [if_pos needs,Session.processors_settings]
    · rw [if_neg needs]
  | _ => rfl

namespace Session

theorem processors_after (acts : List (Act α φ)) (session : Session) :
    (session.after acts).processors = session.processors := by
  induction acts generalizing session with
  | nil => rfl
  | cons act rest ih => exact (ih (act.perform session)).trans (act.processors_perform session)

/-- As long as nothing is forgotten, the settings that are kept are the first ones that were read through the cache. -/
theorem cached_after {acts : List (Act α φ)} (keeps : ∀ act ∈ acts, act ≠ .forget) (session : Session) :
    (session.after acts).cached = session.cached.or (session.firstRead? acts) := by
  induction acts generalizing session with
  | nil => exact (Option.or_none ..).symm
  | cons act rest ih =>
    have later := ih (fun other member => keeps other (List.mem_cons_of_mem act member)) (act.perform session)
    rw [Act.cached_perform (keeps act List.mem_cons_self),Option.or_assoc] at later
    exact later

/-- Where nothing is kept: at the beginning, or where the settings were just forgotten. -/
inductive Unread (session : Session) : List (Act α φ) → Prop
  | beginning (uncached : session.cached = none) : Unread session []
  | forgotten (acts : List (Act α φ)) : Unread session (acts ++ [.forget])

theorem Unread.uncached {session : Session} {acts : List (Act α φ)} (unread : session.Unread acts) :
    (session.after acts).cached = none := by
  cases unread with
  | beginning uncached => exact uncached
  | forgotten acts => rw [after_append]; rfl

/-- A history falls into what was done before the settings were forgotten last and what was done `since`. Every call
    that needs settings works under the first ones that were read through the cache since then, by itself if by none
    before it; if they cannot be read, they are read again by the next such call. Every other call works alike in all
    sessions and changes none, and so does a direct reading, whatever settings are kept. -/
theorem call_after {session : Session} {early since : List (Act α φ)} (unread : session.Unread early)
    (keeps : ∀ act ∈ since, act ≠ .forget) (call : Call α φ) :
    let start := session.after early
    let now := start.after since
    let first? := start.firstRead? (since ++ [.call call])
    now.cached = start.firstRead? since ∧
      (call.needsSettings →
        (∀ settings, first? = some settings →
          (call.perform now).1 = call.under settings ∧ (call.perform now).2.cached = some settings) ∧
        (first? = none → ∃ error, (loadSettings now).1 = .error error ∧ (call.perform now).1 = call.refused error ∧
          (call.perform now).2.cached = none)) ∧
      (¬ call.needsSettings → ∀ other, call.perform other = ((call.perform now).1,other)) ∧
      ∀ kept, loadSettings { now with cached := kept } =
        ((loadSettings now).1,{ (loadSettings now).2 with cached := kept }) := by
  intro start now first?
  have kept : now.cached = start.firstRead? since := by
    rw [cached_after keeps start,unread.uncached,Option.none_or]
  refine ⟨kept,?_,?_,loadSettings_withCached now⟩
  · intro needs
    -- the call itself is the last of those that may be the first to read
    have firstIs : first? = now.cached.or (loadSettings now).1.toOption := by
      have read : (if call.needsSettings then (loadSettings now).1.toOption else none) =
          (loadSettings now).1.toOption := if_pos needs
      rw [kept,← read]
      exact (firstRead?_append ..).trans (congrArg _ (Option.or_none ..))
    have left : (call.perform now).2.cached = first? := by
      rw [call.session_perform,if_pos needs,cached_settings,firstIs]
    refine ⟨fun settings isFirst => ?_,fun isNone => ?_⟩
    · exact ⟨Call.perform_of_read needs (firstIs.symm.trans isFirst),left.trans isFirst⟩
    · obtain ⟨error,fails,refused⟩ := Call.perform_of_unread needs (firstIs.symm.trans isNone)
      exact ⟨error,fails,refused,left.trans isNone⟩
  · intro needless other
    rw [call.perform_other needless other (.default 1),call.perform_other needless now (.default 1)]

/-- A first reading fails, a second one gives seven steps, and later changes make no difference. -/
theorem call_after_failure :
    let steps := Variable.stepLimit.name
    let since : List (Act Rat Empty) := [.set steps (lit "lots"),.call .config,.set steps (lit "7"),.call .config,
      .set steps (lit "9"),.load]
    let start := Session.empty 4
    let now := start.after since
    start.Unread ([] : List (Act Rat Empty)) ∧ (∀ act ∈ since, act ≠ .forget) ∧
      now.environment.get? steps = some (lit "9") ∧
      ((Call.settings : Call Rat Empty).perform now).1 = Except.ok (⟨7,1000000,true,3⟩ : Settings) := by
  intro steps since start now
  have unread : start.Unread ([] : List (Act Rat Empty)) := .beginning rfl
  have keeps : ∀ act ∈ since, act ≠ .forget := by simp [since]
  have first : start.firstRead? (since ++ [.call .settings]) = some ⟨7,1000000,true,3⟩ := by decide +kernel
  refine ⟨unread,keeps,by decide +kernel,?_⟩
  exact (((call_after unread keeps .settings).2.1 rfl).1 _ first).1

end Session

end TapeArena
