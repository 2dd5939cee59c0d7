import TapeArena.Settings
import TapeArena.Environment.File

/-!
What evaluations share: the processors of their machine, the variables that are set, the files of
variables, and the settings that were read last. Reading the settings first takes over every variable that
the nearest file gives and that is not set yet, and those stay set; a variable of its own can switch that
off. Settings that were read are kept until they are forgotten; a failure is not kept.
-/
namespace TapeArena

/-- The state that evaluations share. `files` are the files of variables, the one of the working directory
    first, then those of the directories above it. -/
structure Session where
  processors : Nat
  environment : Environment
  files : List (Option Text)
  cached : Option Settings

/-- A computation in a session that may fail. -/
abbrev Session.Action (ε α : Type) := ExceptT ε (StateM Session) α

namespace Session

/-- A session in which nothing is set. -/
def empty (processors : Nat) : Session := ⟨processors,[],[],none⟩

def setVariable (name value : Text) : Action VariableError Unit := fun session =>
  match session.environment.assign name value with
  | .ok environment => (.ok (),{ session with environment })
  | .error error => (.error error,session)
def unsetVariable (name : Text) (session : Session) : Session :=
  { session with environment := session.environment.unset name }
/-- Puts a file of variables into the directory that lies `up` levels above the working directory, or
    removes the one that is there. -/
def putFile (up : Nat) (file : Option Text) (session : Session) : Session :=
  let padded := session.files ++ List.replicate (up + 1 - session.files.length) none
  { session with files := padded.set up file }
def forget (session : Session) : Session := { session with cached := none }

/-- The file of variables that is found first on the way up from the working directory. -/
def nearest? (session : Session) : Option Text := session.files.findSome? id

/-- The variable that says whether files of variables are to be left alone. -/
def switch : Text := lit "PYTHON_DOTENV_DISABLED"
/-- The words that say so, in small letters. -/
def switchWords : List Text := [lit "1",lit "true",lit "t",lit "yes",lit "y"]
/-- A Latin letter without regard to its case; the long form of the small letter s is that letter too. -/
def caseless (c : CodePoint) : CodePoint := if c.is 'ſ' then .ofChar 's' else c.lower
/-- Files of variables are left alone. -/
def leavesFiles (environment : Environment) : Bool :=
  (environment.get? switch).any fun value => switchWords.contains (value.map caseless)

/-- The file whose variables are to be taken over: the nearest one, unless files are left alone. -/
def effective? (session : Session) : Option Text :=
  if leavesFiles session.environment then none else session.nearest?

/-- Takes over the variables of the nearest file. -/
def takeOver : Action SettingError Unit := fun session =>
  match session.effective? with
  | none => (.ok (),session)
  | some file =>
    let given := Environment.File.given session.environment file
    let (environment,result) := session.environment.supplyAll given
    (result.mapError .refused,{ session with environment })

/-- Reads the settings anew. -/
def loadSettings : Action SettingError Settings := do
  takeOver
  let session ← get
  match Settings.read session.processors session.environment with
  | .ok settings => return settings
  | .error error => throw error

/-- The settings that were read last, or else those read now. -/
def settings : Action SettingError Settings := do
  match (← get).cached with
  | some settings => return settings
  | none =>
    let settings ← loadSettings
    modify fun session => { session with cached := some settings }
    return settings

end Session

end TapeArena
