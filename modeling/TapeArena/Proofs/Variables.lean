import Mathlib.Data.List.Nodup
import TapeArena.Session

/-!
Variables that are taken over from a file. A file gives each of its variables once (`nodup_given`), so what is set
already stays, and what is not set gets the value that the file gives, if it gives one (`get?_takeOver`). Whether this
is refused midway or not, no other value gets in (`get?_takeOver_cases`). Only the values of variables matter, not the
order in which they were set (`takeOver_congr`).
-/
namespace TapeArena

/-- Entering a value adds its key behind the others, unless the key is there already. -/
theorem Entries.map_fst_put {κ α : Type} [DecidableEq κ] (entries : Entries κ α) (key : κ) (value : α) :
    (put (fun a b => decide (a = b)) entries key value).map Prod.fst =
      if key ∈ entries.map Prod.fst then entries.map Prod.fst else entries.map Prod.fst ++ [key] := by
  induction entries with
  | nil => rfl
  | cons entry rest ih =>
    by_cases same : entry.1 = key
    · simp [put,same]
    · simp only [put,same,decide_false,Bool.false_eq_true,if_false,List.map_cons,ih,List.mem_cons,Ne.symm same,false_or]
      split <;> rfl

theorem Entries.nodup_put {κ α : Type} [DecidableEq κ] {entries : Entries κ α}
    (distinct : (entries.map Prod.fst).Nodup) (key : κ) (value : α) :
    ((put (fun a b => decide (a = b)) entries key value).map Prod.fst).Nodup := by
  rw [map_fst_put]
  split
  · exact distinct
  · rename_i fresh
    rw [← List.concat_eq_append]
    exact List.Nodup.concat fresh distinct

namespace Environment
variable {environment one other supplied after : Environment} {entries : List (Text × Option Text)} {name : Text}
  {result : Except VariableError Unit}

/-! ### What a file gives -/

theorem File.nodup_given (environment : Environment) (text : Text) : ((given environment text).map Prod.fst).Nodup :=
  List.foldlRecOn (motive := fun given : Entries Text (Option Text) => (given.map Prod.fst).Nodup) (read text) _
    List.nodup_nil fun _ distinct binding _ => Entries.nodup_put distinct binding.name _

theorem File.given_congr (same : one.get? = other.get?) (text : Text) : given one text = given other text := by
  have sameMeaning : meaning one = meaning other := by
    funext given name
    rw [meaning,meaning,same]
  rw [given,given,sameMeaning]

/-! ### Supplied values -/

theorem get?_supply {value : Option Text} (supplies : environment.supply name value = .ok supplied) (other : Text) :
    supplied.get? other = if other = name then (environment.get? name).or value else environment.get? other := by
  cases value with
  | none =>
    cases supplies
    split <;> simp_all
  | some value =>
    rw [supply] at supplies
    by_cases isSet : (environment.get? name).isSome
    · rw [if_pos isSet] at supplies
      cases supplies
      obtain ⟨present,found⟩ := Option.isSome_iff_exists.mp isSet
      split <;> simp_all
    · rw [if_neg isSet,assign] at supplies
      split at supplies
      · cases supplies
      · cases supplies
        split
        · subst name
          rw [get?_set,Option.not_isSome_iff_eq_none.mp isSet,Option.none_or]
        · exact get?_set_of_ne _ ‹_› value

/-- A variable keeps the value that it has and else gets the one that it is supplied, unless that or one before it is
    refused. -/
theorem get?_supplyAll (distinct : (entries.map Prod.fst).Nodup)
    (supplies : environment.supplyAll entries = (after,result)) (name : Text) :
    after.get? name = (environment.get? name).or (entries.lookup name).join ∨
      after.get? name = environment.get? name ∧ ∃ error, result = .error error := by
  induction entries generalizing environment with
  | nil =>
    cases supplies
    exact .inl (Option.or_none ..).symm
  | cons entry rest ih =>
    obtain ⟨key,value⟩ := entry
    obtain ⟨fresh,distinct⟩ := List.nodup_cons.mp distinct
    rw [supplyAll] at supplies
    cases first : environment.supply key value with
    | error error =>
      rw [first] at supplies
      cases supplies
      exact .inr ⟨rfl,error,rfl⟩
    | ok supplied =>
      rw [first] at supplies
      have later := ih distinct supplies
      rw [get?_supply first] at later
      by_cases same : name = key
      · -- the rest does not supply this variable again
        subst same
        have absent : rest.lookup name = none := by
          rw [List.lookup_eq_none_iff]
          intro entry member
          have differs : name ≠ entry.1 := fun isKey => fresh (List.mem_map.mpr ⟨entry,member,isKey.symm⟩)
          simpa using differs
        simp only [if_true,absent,Option.join_none,Option.or_none] at later
        rw [List.lookup_cons_self,Option.join_some]
        exact .inl (later.elim id And.left)
      · have passed : (name == key) = false := by simpa using same
        rw [if_neg same] at later
        rw [List.lookup_cons,passed]
        exact later

theorem set_congr (same : one.get? = other.get?) (name value : Text) :
    (one.set name value).get? = (other.set name value).get? := by
  funext key
  by_cases isName : key = name
  · rw [isName,get?_set,get?_set]
  · rw [get?_set_of_ne one isName,get?_set_of_ne other isName,same]

theorem supply_congr (same : one.get? = other.get?) (name : Text) (value : Option Text) :
    (one.supply name value).map get? = (other.supply name value).map get? := by
  cases value with
  | none => exact congrArg Except.ok same
  | some value =>
    rw [supply,supply,same]
    split
    · exact congrArg Except.ok same
    · rw [assign,assign]
      cases objection? name value with
      | some error => rfl
      | none => exact congrArg Except.ok (set_congr same name value)

theorem supplyAll_congr (same : one.get? = other.get?) (entries : List (Text × Option Text)) :
    (one.supplyAll entries).2 = (other.supplyAll entries).2 ∧
      (one.supplyAll entries).1.get? = (other.supplyAll entries).1.get? := by
  induction entries generalizing one other with
  | nil => exact ⟨rfl,same⟩
  | cons entry rest ih =>
    have alike := supply_congr same entry.1 entry.2
    rw [supplyAll,supplyAll]
    cases first : one.supply entry.1 entry.2 <;> cases second : other.supply entry.1 entry.2 <;>
      simp only [first,second,Except.map,Except.ok.injEq,Except.error.injEq,reduceCtorEq] at alike
    · exact ⟨congrArg Except.error alike,same⟩
    · exact ih alike

end Environment

/-- The settings that are read on a machine depend on nothing but the values of variables. -/
theorem Settings.read_congr {one other : Environment} (same : one.get? = other.get?) (processors : Nat) :
    read processors one = read processors other := by
  have sameRaw : raw? one = raw? other := by
    funext v
    rw [raw?,raw?,same]
  simp only [read,readNat,readFlag,sameRaw]

/-! ### Taking over -/

namespace Session
open Environment
variable {session after : Session} {name value : Text}

/-- The value that the nearest file gives to a variable, unless files are left alone. -/
def fileValue? (session : Session) (name : Text) : Option Text :=
  session.effective?.bind fun file => ((Environment.File.given session.environment file).lookup name).join

theorem get?_takeOver_cases {result : Except SettingError Unit} (takes : takeOver session = (result,after))
    (name : Text) :
    after.environment.get? name = (session.environment.get? name).or (session.fileValue? name) ∨
      after.environment.get? name = session.environment.get? name ∧ ∃ error, result = .error error := by
  rw [takeOver] at takes
  rw [fileValue?]
  cases found : session.effective? with
  | none =>
    rw [found] at takes
    cases takes
    exact .inl (Option.or_none ..).symm
  | some file =>
    rw [found] at takes
    have distinct := Environment.File.nodup_given session.environment file
    rcases supplies : session.environment.supplyAll (File.given session.environment file) with ⟨supplied,outcome⟩
    simp only [supplies] at takes
    cases takes
    obtain gets | ⟨keeps,error,refused⟩ := Environment.get?_supplyAll distinct supplies name
    · exact .inl gets
    · exact .inr ⟨keeps,.refused error,congrArg (Except.mapError SettingError.refused) refused⟩

/-- If no variable is refused, all have the value that they had or else the one that the file gives. -/
theorem get?_takeOver (takes : takeOver session = (.ok (),after)) (name : Text) :
    after.environment.get? name = (session.environment.get? name).or (session.fileValue? name) := by
  obtain gets | ⟨-,error,failed⟩ := get?_takeOver_cases takes name
  · exact gets
  · cases failed

theorem get?_takeOver_of_some (isSet : session.environment.get? name = some value) :
    (takeOver session).2.environment.get? name = some value := by
  obtain gets | ⟨keeps,-⟩ := get?_takeOver_cases (Prod.eta (takeOver session)).symm name
  · rw [gets,isSet,Option.some_or]
  · rw [keeps,isSet]

/-- A variable that is not set is taken over from the file with a value. -/
def TakesOver (session : Session) (name value : Text) : Prop :=
  session.environment.get? name = none ∧ (takeOver session).2.environment.get? name = some value

/-- What is taken over is what the file gives. -/
theorem TakesOver.fileValue? (takes : session.TakesOver name value) : session.fileValue? name = some value := by
  obtain ⟨unset,got⟩ := takes
  obtain gets | ⟨keeps,-⟩ := get?_takeOver_cases (Prod.eta (takeOver session)).symm name
  · rwa [got,unset,Option.none_or,eq_comm] at gets
  · rw [got,unset] at keeps
    cases keeps

/-- Taking over depends on no more of the variables than their values. -/
theorem takeOver_congr {other : Environment} (same : session.environment.get? = other.get?) :
    (takeOver session).1 = (takeOver { session with environment := other }).1 ∧
      (takeOver session).2.environment.get? = (takeOver { session with environment := other }).2.environment.get? := by
  have sameFile : effective? { session with environment := other } = session.effective? := by
    rw [effective?,effective?,leavesFiles,leavesFiles,same]
    rfl
  rw [takeOver,takeOver,sameFile]
  cases session.effective? with
  | none => exact ⟨rfl,same⟩
  | some file =>
    have alike := Environment.supplyAll_congr same (File.given session.environment file)
    simp only [← Environment.File.given_congr same]
    exact ⟨congrArg (Except.mapError SettingError.refused) alike.1,alike.2⟩

end Session

end TapeArena
