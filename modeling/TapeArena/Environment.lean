import TapeArena.Text.Basic

/-!
Variables with values. A name that is given a value again keeps only the new one; a name that is supplied
keeps the value that it has. A null character may stand neither in a name nor in a value, and an equals sign
not in a name.
-/
namespace TapeArena

/-- The variables that are set, each with its value. -/
abbrev Environment := List (Text × Text)

/-- Why a variable cannot be set. -/
inductive VariableError
  | nullCharacter
  | illegalName
  deriving DecidableEq

def VariableError.message : VariableError → Text
  | .nullCharacter => lit "embedded null byte"
  | .illegalName => lit "illegal environment variable name"

namespace Environment

def get? (environment : Environment) (name : Text) : Option Text := environment.lookup name
def unset (environment : Environment) (name : Text) : Environment := environment.filter (·.1 ≠ name)
def set (environment : Environment) (name value : Text) : Environment :=
  (name,value) :: environment.unset name
/-- What stands against a name and a value, if anything does. -/
def objection? (name value : Text) : Option VariableError :=
  if (name ++ value).any (·.is '\x00') then some .nullCharacter
  else if name.any (·.is '=') then some .illegalName
  else none
/-- Gives a variable a value, if nothing stands against it. -/
def assign (environment : Environment) (name value : Text) : Except VariableError Environment :=
  match objection? name value with
  | some error => .error error
  | none => .ok (environment.set name value)
/-- Gives a variable a value if there is one and the variable is not set yet. -/
def supply (environment : Environment) (name : Text) : Option Text → Except VariableError Environment
  | some value =>
    if (environment.get? name).isSome then .ok environment else environment.assign name value
  | none => .ok environment
/-- Supplies some variables in order; the first one that cannot be set ends it, and those before it stay
    set. -/
def supplyAll (environment : Environment) : List (Text × Option Text) → Environment × Except VariableError Unit
  | [] => (environment,.ok ())
  | (name,value) :: rest =>
    match environment.supply name value with
    | .ok supplied => supplied.supplyAll rest
    | .error error => (environment,.error error)

theorem get?_set (environment : Environment) (name value : Text) :
    (environment.set name value).get? name = some value := by
  simp [get?,set]
theorem get?_unset (environment : Environment) (name : Text) : (environment.unset name).get? name = none := by
  induction environment with
  | nil => rfl
  | cons first rest ih =>
    by_cases same : first.1 = name
    · simpa [get?,unset,same] using ih
    · have differs : (name == first.1) = false := by simpa using Ne.symm same
      have kept : unset (first :: rest) name = first :: unset rest name := by simp [unset,same]
      have passed : get? (first :: unset rest name) name = get? (unset rest name) name := by
        show (match name == first.1 with | true => some first.2 | false => (unset rest name).lookup name) = _
        rw [differs]
        rfl
      rw [kept,passed,ih]
theorem get?_unset_of_ne (environment : Environment) {name other : Text} (differs : other ≠ name) :
    (environment.unset name).get? other = environment.get? other := by
  induction environment with
  | nil => rfl
  | cons first rest ih =>
    by_cases same : first.1 = name
    · have skipped : unset (first :: rest) name = unset rest name := by simp [unset,same]
      have passed : (other == first.1) = false := by simpa [same] using differs
      rw [skipped,ih,get?,get?,List.lookup_cons,passed]
    · have kept : unset (first :: rest) name = first :: unset rest name := by simp [unset,same]
      rw [kept,get?,get?,List.lookup_cons,List.lookup_cons]
      cases other == first.1 with
      | true => rfl
      | false => exact ih
theorem get?_set_of_ne (environment : Environment) {name other : Text} (differs : other ≠ name) (value : Text) :
    (environment.set name value).get? other = environment.get? other := by
  have passed : (other == name) = false := by simpa using differs
  rw [set,get?,List.lookup_cons,passed]
  exact get?_unset_of_ne environment differs

end Environment

end TapeArena
