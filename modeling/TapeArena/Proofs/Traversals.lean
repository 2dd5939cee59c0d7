import Mathlib.Data.List.Forall2

/-!
Readings that may fail. A reading is known by what it accepts and by what it reports of everything else (`Decides`). A
list is read if each of its elements is, and otherwise the first element that cannot be read decides what is reported
(`Decides.mapM`).
-/
namespace TapeArena.Traversal
variable {α β γ ε : Type}

/-- A reading gives what is accepted, and reports why the rest is refused. -/
structure Decides (read : α → Except ε β) (accepts : α → β → Prop) (refuses : α → ε → Prop) : Prop where
  ok_iff {item : α} {result : β} : read item = .ok result ↔ accepts item result
  error_iff {item : α} {error : ε} : read item = .error error ↔ refuses item error

section
variable {read : α → Except ε β} {accepts : α → β → Prop} {refuses : α → ε → Prop} {items : List α}

/-- Every outcome has its reason, and what is a reason leads to its outcome. -/
theorem Decides.of_outcomes
    (outcome : ∀ item, (∃ result, read item = .ok result ∧ accepts item result) ∨
      ∃ error, read item = .error error ∧ refuses item error)
    (accepted : ∀ item result, accepts item result → read item = .ok result)
    (refused : ∀ item error, refuses item error → read item = .error error) : Decides read accepts refuses := by
  constructor
  · intro item result
    refine ⟨fun done => ?_,accepted item result⟩
    rcases outcome item with ⟨found,is,good⟩ | ⟨error,failed,-⟩
    · cases is.symm.trans done
      exact good
    · cases failed.symm.trans done
  · intro item error
    refine ⟨fun failed => ?_,refused item error⟩
    rcases outcome item with ⟨found,done,-⟩ | ⟨other,is,bad⟩
    · cases done.symm.trans failed
    · cases is.symm.trans failed
      exact bad

theorem Decides.accepts_or_refuses (decides : Decides read accepts refuses) (item : α) :
    (∃ result, accepts item result) ∨ ∃ error, refuses item error := by
  cases outcome : read item with
  | ok result => exact .inl ⟨result,decides.ok_iff.mp outcome⟩
  | error error => exact .inr ⟨error,decides.error_iff.mp outcome⟩

/-! ### One after the other -/

variable {reading : Except ε α} {next : α → Except ε β}

theorem bind_eq_ok_iff {b : β} : (reading >>= next) = .ok b ↔ ∃ a, reading = .ok a ∧ next a = .ok b := by
  cases reading with
  | ok a =>
    constructor
    · exact fun done => ⟨a,rfl,done⟩
    · rintro ⟨a,read,done⟩
      cases read
      exact done
  | error error =>
    constructor
    · exact fun done => (nomatch done)
    · exact fun ⟨_,read,_⟩ => (nomatch read)
theorem bind_eq_error_iff {error : ε} : (reading >>= next) = .error error ↔
    reading = .error error ∨ ∃ a, reading = .ok a ∧ next a = .error error := by
  cases reading with
  | ok a =>
    constructor
    · exact fun failed => .inr ⟨a,rfl,failed⟩
    · rintro (failed | ⟨a,read,failed⟩)
      · cases failed
      · cases read
        exact failed
  | error first =>
    constructor
    · intro failed
      cases failed
      exact .inl rfl
    · rintro (failed | ⟨_,read,_⟩)
      · cases failed
        rfl
      · cases read

/-! ### Along a list -/

/-- An element at fault, and what is reported of it; all elements before it are sound. -/
inductive FirstFault (sound : α → Prop) (fault : α → ε → Prop) : List α → ε → Prop
  | here {item : α} {rest : List α} {error : ε} (faulty : fault item error) : FirstFault sound fault (item :: rest) error
  | later {item : α} {rest : List α} {error : ε} (isSound : sound item) (first : FirstFault sound fault rest error) :
    FirstFault sound fault (item :: rest) error

theorem FirstFault.ne_nil {sound : α → Prop} {error : ε} (first : FirstFault sound refuses items error) : items ≠ [] := by
  cases first <;> exact List.cons_ne_nil _ _
theorem FirstFault.exists_mem {sound : α → Prop} {error : ε} (first : FirstFault sound refuses items error) :
    ∃ item ∈ items, refuses item error := by
  induction first with
  | @here item rest error faulty => exact ⟨item,List.mem_cons_self,faulty⟩
  | later _ _ ih =>
    obtain ⟨item,member,faulty⟩ := ih
    exact ⟨item,List.mem_cons_of_mem _ member,faulty⟩

/-- A reading that comes before the readings of a list is at fault, or else the first of these. -/
theorem FirstFault.bind_iff {sound : γ → Prop} {fault : γ → ε → Prop} {item : γ} {rest : List γ} {error : ε}
    (isSound : (∃ a, reading = .ok a) ↔ sound item) (faulty : reading = .error error ↔ fault item error)
    (later : ∀ a, next a = .error error ↔ FirstFault sound fault rest error) :
    (reading >>= next) = .error error ↔ FirstFault sound fault (item :: rest) error := by
  rw [bind_eq_error_iff]
  constructor
  · rintro (failed | ⟨a,read,failed⟩)
    · exact .here (faulty.mp failed)
    · exact .later (isSound.mp ⟨a,read⟩) ((later a).mp failed)
  · intro first
    cases first with
    | here isFault => exact .inl (faulty.mpr isFault)
    | later itemSound first =>
      obtain ⟨a,read⟩ := isSound.mpr itemSound
      exact .inr ⟨a,read,(later a).mpr first⟩

/-- The first fault of a list lies behind elements that are all sound. -/
theorem FirstFault.of_split {sound : α → Prop} {fault : α → ε → Prop} {earlier later : List α} {item : α} {error : ε}
    (isSound : ∀ other ∈ earlier, sound other) (faulty : fault item error) :
    FirstFault sound fault (earlier ++ item :: later) error := by
  induction earlier with
  | nil => exact .here faulty
  | cons first earlier ih =>
    exact .later (isSound first List.mem_cons_self) (ih fun other member => isSound other (List.mem_cons_of_mem _ member))

/-- What a search along a list finds is the first fault, if it finds something in the elements at fault only. -/
theorem FirstFault.findSome?_iff {sound : α → Prop} {fault : α → ε → Prop} {find : α → Option ε} {error : ε}
    (passes : ∀ item, find item = none ↔ sound item) (finds : ∀ item, find item = some error ↔ fault item error) :
    items.findSome? find = some error ↔ FirstFault sound fault items error := by
  constructor
  · intro found
    obtain ⟨earlier,item,later,rfl,here,passed⟩ := List.findSome?_eq_some_iff.mp found
    exact .of_split (fun other member => (passes other).mp (passed other member)) ((finds item).mp here)
  · intro first
    induction first with
    | here faulty => rw [List.findSome?_cons,(finds _).mpr faulty]
    | later isSound _ ih => rw [List.findSome?_cons,(passes _).mpr isSound,ih finds]

/-- Where all elements that are refused are refused for one reason, any of them shows that there is a first one. -/
theorem Decides.firstFault_of_mem (decides : Decides read accepts refuses) {error : ε}
    (uniform : ∀ item other, refuses item other → other = error) {item : α} (member : item ∈ items)
    (refused : refuses item error) : FirstFault (fun item => ∃ result, accepts item result) refuses items error := by
  induction items with
  | nil => cases member
  | cons head rest ih =>
    rcases List.mem_cons.mp member with rfl | inRest
    · exact .here refused
    · rcases decides.accepts_or_refuses head with accepted | ⟨other,headRefused⟩
      · exact .later accepted (ih inRest)
      · rw [uniform head other headRefused] at headRefused
        exact .here headRefused

theorem Decides.mapM (decides : Decides read accepts refuses) :
    Decides (fun items => List.mapM read items) (List.Forall₂ accepts)
      (FirstFault (fun item => ∃ result, accepts item result) refuses) := by
  refine .of_outcomes (fun items => ?_) (fun items results each => ?_) (fun items error first => ?_)
  · induction items with
    | nil => exact .inl ⟨[],rfl,.nil⟩
    | cons item rest ih =>
      rw [List.mapM_cons]
      cases head : read item with
      | error error => exact .inr ⟨error,rfl,.here (decides.error_iff.mp head)⟩
      | ok result =>
        have accepted : accepts item result := decides.ok_iff.mp head
        rcases ih with ⟨results,tail,each⟩ | ⟨error,tail,first⟩
        · exact .inl ⟨result :: results,bind_eq_ok_iff.mpr ⟨result,rfl,bind_eq_ok_iff.mpr ⟨results,tail,rfl⟩⟩,
            .cons accepted each⟩
        · exact .inr ⟨error,bind_eq_error_iff.mpr (.inr ⟨result,rfl,bind_eq_error_iff.mpr (.inl tail)⟩),
            .later ⟨result,accepted⟩ first⟩
  · induction each with
    | nil => rfl
    | cons head tail ih =>
      rw [List.mapM_cons]
      exact bind_eq_ok_iff.mpr ⟨_,decides.ok_iff.mpr head,bind_eq_ok_iff.mpr ⟨_,ih,rfl⟩⟩
  · induction first with
    | here faulty =>
      rw [List.mapM_cons]
      exact bind_eq_error_iff.mpr (.inl (decides.error_iff.mpr faulty))
    | later isSound first ih =>
      obtain ⟨result,accepted⟩ := isSound
      rw [List.mapM_cons]
      exact bind_eq_error_iff.mpr (.inr ⟨result,decides.ok_iff.mpr accepted,bind_eq_error_iff.mpr (.inl ih)⟩)

end

end TapeArena.Traversal
