import TapeArena.Proofs.Obstacles
import TapeArena.Proofs.Spellings

/-!
The grammar of collections of exercises. Values that show examples (`Shows`), that are names (`Names`), that describe
exercises (`Describes`) and that hold a collection (`Holds`) are told apart from all others, with the first thing that
is wrong there (`Misshows`, `Misnames`, `Misdescribes`). A collection is read if and only if it follows the grammar, and
otherwise its first violation is reported (`readAll_ok_or_error`). All that has to do with names depends on the room
that is left for writing them.
-/
namespace TapeArena.Exercise
open Datum Traversal

/-! ### Examples -/

/-- The two values of an example; an input that is missing counts as no value. -/
inductive Parts : Datum → Datum → Datum → Prop
  | fields {fields : List (Datum × Datum)} {output : Datum} (found : field? fields outputKey = some output) :
    Parts (.dict fields) ((field? fields inputKey).getD .null) output
  | pair {value input output : Datum} (isPair : IsSequence value [input,output]) : Parts value input output

/-- A value shows an example. -/
inductive Shows : Datum → Example → Prop
  | mk {value input output : Datum} {shown : Example} (parts : Parts value input output)
    (inputSpelled : Spells input shown.input) (outputSpelled : Spells output shown.expected) : Shows value shown

/-- The first thing wrong in a value that shows no example; its input comes before its output. -/
inductive Misshows : Datum → ExerciseError → Prop
  | noOutput {fields : List (Datum × Datum)} (missing : field? fields outputKey = none) : Misshows (.dict fields) .noOutput
  | notExample {value : Datum} (notMapping : ∀ fields, value ≠ .dict fields)
    (notPair : ∀ input output, ¬ IsSequence value [input,output]) : Misshows value .notExample
  | input {value input output : Datum} {error : ExerciseError} (parts : Parts value input output)
    (misspelled : Misspells input error) : Misshows value error
  | output {value input output : Datum} {bytes : Bytes} {error : ExerciseError} (parts : Parts value input output)
    (inputSpelled : Spells input bytes) (misspelled : Misspells output error) : Misshows value error

theorem readPair_eq_ok_iff {input output : Datum} {shown : Example} :
    readPair input output = .ok shown ↔ Spells input shown.input ∧ Spells output shown.expected := by
  rw [readPair,bind_eq_ok_iff]
  constructor
  · rintro ⟨bytes,inputRead,rest⟩
    obtain ⟨expected,outputRead,is⟩ := bind_eq_ok_iff.mp rest
    cases is
    exact ⟨decides_readBytes.ok_iff.mp inputRead,decides_readBytes.ok_iff.mp outputRead⟩
  · rintro ⟨inputSpelled,outputSpelled⟩
    have outputRead := decides_readBytes.ok_iff.mpr outputSpelled
    exact ⟨_,decides_readBytes.ok_iff.mpr inputSpelled,bind_eq_ok_iff.mpr ⟨_,outputRead,rfl⟩⟩
theorem readPair_eq_error_iff {input output : Datum} {error : ExerciseError} : readPair input output = .error error ↔
    Misspells input error ∨ ∃ bytes, Spells input bytes ∧ Misspells output error := by
  rw [readPair,bind_eq_error_iff,decides_readBytes.error_iff]
  refine or_congr Iff.rfl (exists_congr fun bytes => and_congr decides_readBytes.ok_iff ?_)
  rw [bind_eq_error_iff,decides_readBytes.error_iff]
  constructor
  · rintro (misspelled | ⟨expected,-,is⟩)
    · exact misspelled
    · cases is
  · exact .inl

theorem readExample_of_parts {value input output : Datum} (parts : Parts value input output) :
    readExample value = readPair input output := by
  cases parts with
  | fields found => simp only [readExample,found]
  | pair isPair => cases isPair <;> rfl

/-- A value without the two values of an example is refused for its form. -/
theorem parts_or_misshows (value : Datum) : (∃ input output, Parts value input output) ∨
    ∃ error, readExample value = .error error ∧ Misshows value error := by
  unfold readExample
  split
  · rename_i fields
    cases found : field? fields outputKey with
    | some output => exact .inl ⟨_,_,.fields found⟩
    | none => exact .inr ⟨_,rfl,.noOutput found⟩
  · exact .inl ⟨_,_,.pair (.list _)⟩
  · exact .inl ⟨_,_,.pair (.tuple _)⟩
  · rename_i notMapping notList notTuple
    refine .inr ⟨_,rfl,.notExample notMapping fun input output isPair => ?_⟩
    cases isPair with
    | list => exact notList input output rfl
    | tuple => exact notTuple input output rfl

theorem decides_readExample : Decides readExample Shows Misshows := by
  refine .of_outcomes (fun value => ?_) (fun value shown shows => ?_) (fun value error misshows => ?_)
  · rcases parts_or_misshows value with ⟨input,output,parts⟩ | refused
    · rw [readExample_of_parts parts]
      cases read : readPair input output with
      | ok shown =>
        obtain ⟨inputSpelled,outputSpelled⟩ := readPair_eq_ok_iff.mp read
        exact .inl ⟨shown,rfl,.mk parts inputSpelled outputSpelled⟩
      | error error =>
        rcases readPair_eq_error_iff.mp read with misspelled | ⟨bytes,inputSpelled,misspelled⟩
        · exact .inr ⟨error,rfl,.input parts misspelled⟩
        · exact .inr ⟨error,rfl,.output parts inputSpelled misspelled⟩
    · exact .inr refused
  · obtain ⟨parts,inputSpelled,outputSpelled⟩ := shows
    rw [readExample_of_parts parts]
    exact readPair_eq_ok_iff.mpr ⟨inputSpelled,outputSpelled⟩
  · cases misshows with
    | noOutput missing => simp only [readExample,missing]
    | notExample notMapping notPair =>
      -- every form that reading knows is excluded
      unfold readExample
      split
      · exact absurd rfl (notMapping _)
      · exact absurd (.list _) (notPair _ _)
      · exact absurd (.tuple _) (notPair _ _)
      · rfl
    | input parts misspelled =>
      rw [readExample_of_parts parts]
      exact readPair_eq_error_iff.mpr (.inl misspelled)
    | output parts inputSpelled misspelled =>
      rw [readExample_of_parts parts]
      exact readPair_eq_error_iff.mpr (.inr ⟨_,inputSpelled,misspelled⟩)

/-! ### Names -/

/-- A value is a name: it is not nothing, and all that is in it can be written. -/
inductive Names (room : Nat) : Datum → Text → Prop
  | mk {value : Datum} (something : value.isNothing = false) (fits : ∀ part ∈ value.parts 0, Fits room part) :
    Names room value value.name

/-- Why a value is no name: it is nothing, or something in it keeps it from being written, and all that is written
    before that can be written. -/
inductive Misnames (room : Nat) : Datum → ExerciseError → Prop
  | nothing {value : Datum} (isNothing : value.isNothing = true) : Misnames room value .noName
  | unwritable {value : Datum} {obstacle : Obstacle} (something : value.isNothing = false)
    (first : FirstFault (Fits room) (Obstructs room) (value.parts 0) obstacle) :
    Misnames room value (.unwritable obstacle)

theorem decides_readName (room : Nat) : Decides (readName room) (Names room) (Misnames room) := by
  refine .of_outcomes (fun value => ?_) (fun value name names => ?_) (fun value error misnames => ?_)
  · unfold readName
    cases isNothing : value.isNothing with
    | true => exact .inr ⟨_,rfl,.nothing isNothing⟩
    | false =>
      cases writing : value.obstacle? room with
      | none => exact .inl ⟨_,rfl,.mk isNothing (obstacle?_eq_none_iff.mp writing)⟩
      | some obstacle => exact .inr ⟨_,rfl,.unwritable isNothing (obstacle?_eq_some_iff.mp writing)⟩
  · obtain ⟨something,fits⟩ := names
    simp [readName,something,obstacle?_eq_none_iff.mpr fits]
  · cases misnames with
    | nothing isNothing => simp [readName,isNothing]
    | unwritable something first => simp [readName,something,obstacle?_eq_some_iff.mpr first]

theorem Names.mono {room more : Nat} {value : Datum} {name : Text} (le : room ≤ more) (names : Names room value name) :
    Names more value name := by
  obtain ⟨something,fits⟩ := names
  exact .mk something fun part member => (fits part member).mono le

/-- A list in lists is a name as long as there is room for them, and one list more makes it none. -/
theorem readName_nested (room depth : Nat) : readName room (nested (depth + 1)) =
    if depth < room then .ok (nested (depth + 1)).name else .error (.unwritable .tooDeep) := by
  have something : (nested (depth + 1)).isNothing = false := rfl
  rw [readName,something,obstacle?_nested]
  by_cases near : depth < room
  · rw [if_pos near,if_pos (Nat.succ_le_of_lt near)]
    rfl
  · rw [if_neg near,if_neg (mt Nat.lt_of_succ_le near)]
    rfl

/-! ### Exercises -/

/-- A name and the examples under it describe an exercise; there is at least one example. -/
inductive DescribesParts (room : Nat) : Datum → Datum → Exercise → Prop
  | mk {name : Datum} {examples : List Datum} {described : Exercise} (named : Names room name described.name)
    (nonempty : examples ≠ []) (each : List.Forall₂ Shows examples described.examples) :
    DescribesParts room name (.list examples) described

/-- The first thing wrong in two values that describe no exercise; the name comes before the examples. -/
inductive MisdescribesParts (room : Nat) : Datum → Datum → ExerciseError → Prop
  | name {name examples : Datum} {error : ExerciseError} (misnamed : Misnames room name error) :
    MisdescribesParts room name examples error
  | noExamples {name examples : Datum} {text : Text} (named : Names room name text)
    (notList : ∀ first more, examples ≠ .list (first :: more)) : MisdescribesParts room name examples (.noExamples text)
  | shown {name : Datum} {text : Text} {examples : List Datum} {error : ExerciseError} (named : Names room name text)
    (first : FirstFault (fun value => ∃ shown, Shows value shown) Misshows examples error) :
    MisdescribesParts room name (.list examples) error

/-- An item describes an exercise; a name or a value that is missing counts as no value. -/
inductive Describes (room : Nat) : Datum → Exercise → Prop
  | mk {fields : List (Datum × Datum)} {described : Exercise}
    (parts : DescribesParts room ((field? fields nameKey).getD .null) ((field? fields examplesKey).getD .null)
      described) : Describes room (.dict fields) described

/-- The first thing wrong in an item that describes no exercise. -/
inductive Misdescribes (room : Nat) : Datum → ExerciseError → Prop
  | notMapping {item : Datum} (notMapping : ∀ fields, item ≠ .dict fields) : Misdescribes room item .notMapping
  | parts {fields : List (Datum × Datum)} {error : ExerciseError}
    (parts : MisdescribesParts room ((field? fields nameKey).getD .null) ((field? fields examplesKey).getD .null)
      error) : Misdescribes room (.dict fields) error

theorem DescribesParts.mono {room more : Nat} {name examples : Datum} {described : Exercise} (le : room ≤ more)
    (describes : DescribesParts room name examples described) : DescribesParts more name examples described := by
  obtain ⟨named,nonempty,each⟩ := describes
  exact .mk (named.mono le) nonempty each
theorem Describes.mono {room more : Nat} {item : Datum} {described : Exercise} (le : room ≤ more)
    (describes : Describes room item described) : Describes more item described := by
  obtain ⟨parts⟩ := describes
  exact .mk (parts.mono le)

section
variable {room : Nat} {name examples : Datum} {text : Text} {error : ExerciseError}

theorem readParts_of_misnamed (misnamed : Misnames room name error) : readParts room name examples = .error error := by
  rw [readParts,(decides_readName _).error_iff.mpr misnamed]
  rfl
theorem readParts_of_list (named : Names room name text) {examples : List Datum} (nonempty : examples ≠ []) :
    readParts room name (.list examples) = (examples.mapM readExample).map fun shown => ⟨text,shown⟩ := by
  obtain ⟨first,more,rfl⟩ := List.exists_cons_of_ne_nil nonempty
  rw [readParts,(decides_readName _).ok_iff.mpr named]
  show ((first :: more).mapM readExample >>= fun shown => pure (⟨text,shown⟩ : Exercise)) = _
  cases (first :: more).mapM readExample <;> rfl
theorem readParts_of_notList (named : Names room name text) (notList : ∀ first more, examples ≠ .list (first :: more)) :
    readParts room name examples = .error (.noExamples text) := by
  rw [readParts,(decides_readName _).ok_iff.mpr named]
  cases examples with
  | list items =>
    cases items with
    | nil => rfl
    | cons first more => exact absurd rfl (notList first more)
  | _ => rfl

end

theorem decides_readParts (room : Nat) (name : Datum) :
    Decides (readParts room name) (DescribesParts room name) (MisdescribesParts room name) := by
  refine .of_outcomes (fun examples => ?_) ?_ (fun examples error misdescribes => ?_)
  -- a name that is none is reported whatever stands under it
  · cases naming : readName room name with
    | error error =>
      have misnamed := (decides_readName _).error_iff.mp naming
      exact .inr ⟨error,readParts_of_misnamed misnamed,.name misnamed⟩
    | ok text =>
      have named := (decides_readName _).ok_iff.mp naming
      by_cases isList : ∃ first more, examples = .list (first :: more)
      · obtain ⟨first,more,rfl⟩ := isList
        have nonempty : first :: more ≠ [] := List.cons_ne_nil first more
        rw [readParts_of_list named nonempty]
        cases read : (first :: more).mapM readExample with
        | ok shown => exact .inl ⟨_,rfl,.mk named nonempty (decides_readExample.mapM.ok_iff.mp read)⟩
        | error error => exact .inr ⟨_,rfl,.shown named (decides_readExample.mapM.error_iff.mp read)⟩
      · have notList : ∀ first more, examples ≠ .list (first :: more) := fun first more is => isList ⟨first,more,is⟩
        exact .inr ⟨_,readParts_of_notList named notList,.noExamples named notList⟩
  · rintro _ described ⟨named,nonempty,each⟩
    rw [readParts_of_list named nonempty,decides_readExample.mapM.ok_iff.mpr each]
    rfl
  · cases misdescribes with
    | name misnamed => exact readParts_of_misnamed misnamed
    | noExamples named notList => exact readParts_of_notList named notList
    | shown named first =>
      rw [readParts_of_list named first.ne_nil,decides_readExample.mapM.error_iff.mpr first]
      rfl

theorem decides_readItem (room : Nat) : Decides (readItem room) (Describes room) (Misdescribes room) := by
  refine .of_outcomes (fun item => ?_) ?_ (fun item error misdescribes => ?_)
  · cases item with
    | dict fields =>
      cases read : readItem room (.dict fields) with
      | ok described => exact .inl ⟨_,rfl,.mk ((decides_readParts _ _).ok_iff.mp read)⟩
      | error error => exact .inr ⟨_,rfl,.parts ((decides_readParts _ _).error_iff.mp read)⟩
    | _ => exact .inr ⟨_,rfl,.notMapping nofun⟩
  · rintro _ described ⟨parts⟩
    exact (decides_readParts _ _).ok_iff.mpr parts
  · cases misdescribes with
    | notMapping notMapping =>
      cases item with
      | dict fields => exact absurd rfl (notMapping fields)
      | _ => rfl
    | parts parts => exact (decides_readParts _ _).error_iff.mpr parts

/-! ### Collections -/

/-- The description of an exercise as an item of a list. -/
def item (name examples : Datum) : Datum := .dict [(.text nameKey,name),(.text examplesKey,examples)]

theorem readItem_item (room : Nat) (name examples : Datum) :
    readItem room (item name examples) = readParts room name examples := rfl

/-- The items of a collection: those of the list under `tasks`, the entries of any other mapping, or a list itself. -/
inductive Holds : Datum → List Datum → Prop
  | tasks {fields : List (Datum × Datum)} {items : List Datum} (found : field? fields tasksKey = some (.list items)) :
    Holds (.dict fields) items
  | mapping {fields : List (Datum × Datum)} (notTasks : ∀ items, field? fields tasksKey ≠ some (.list items)) :
    Holds (.dict fields) (fields.map fun entry => item entry.1 entry.2)
  | list (items : List Datum) : Holds (.list items) items

theorem tasks?_eq_some_iff {fields : List (Datum × Datum)} {items : List Datum} :
    tasks? fields = some items ↔ field? fields tasksKey = some (.list items) := by
  unfold tasks?
  split
  · rename_i found is
    rw [is,Option.some.injEq,Option.some.injEq,list.injEq]
  · rename_i notList
    exact ⟨fun none => (nomatch none),fun is => absurd is (notList items)⟩

section
variable {room : Nat → Nat} {data : Datum} {items : List Datum} {exercises : List Exercise} {error : ExerciseError}

/-- A collection is read item by item. -/
theorem readAll_of_holds (holds : Holds data items) : readAll room data = readEach room readItem items := by
  cases holds with
  | tasks found => simp only [readAll,tasks?_eq_some_iff.mpr found]
  | @mapping fields notTasks =>
    have none : tasks? fields = none := by
      cases found : tasks? fields with
      | none => rfl
      | some items => exact absurd (tasks?_eq_some_iff.mp found) (notTasks items)
    simp only [readAll,none,readEach,List.zipIdx_map,List.mapM_map,Function.comp_def,Prod.map,readItem_item]
    rfl
  | list => rfl

/-- A value is a collection, or it is refused as none. -/
theorem holds_or_notCollection (room : Nat → Nat) (data : Datum) :
    (∃ items, Holds data items) ∨ (∀ items, ¬ Holds data items) ∧ readAll room data = .error .notCollection := by
  cases data with
  | dict fields =>
    by_cases tasks : ∃ items, field? fields tasksKey = some (.list items)
    · obtain ⟨items,found⟩ := tasks
      exact .inl ⟨items,.tasks found⟩
    · exact .inl ⟨_,.mapping fun items found => tasks ⟨items,found⟩⟩
  | list items => exact .inl ⟨items,.list items⟩
  | _ => exact .inr ⟨nofun,rfl⟩

/-- A value is a collection of exercises: its items describe them in order, each under the room that is left for it. -/
inductive Collects (room : Nat → Nat) : Datum → List Exercise → Prop
  | mk {data : Datum} {items : List Datum} {exercises : List Exercise} (holds : Holds data items)
    (each : List.Forall₂ (fun place => Describes (room place.2) place.1) items.zipIdx exercises) :
    Collects room data exercises

/-- The first thing wrong in a value that is no collection of exercises. -/
inductive Violates (room : Nat → Nat) : Datum → ExerciseError → Prop
  | notCollection {data : Datum} (notHolds : ∀ items, ¬ Holds data items) : Violates room data .notCollection
  | item {data : Datum} {items : List Datum} {error : ExerciseError} (holds : Holds data items)
    (first : FirstFault (fun place => ∃ described, Describes (room place.2) place.1 described)
      (fun place => Misdescribes (room place.2) place.1) items.zipIdx error) : Violates room data error

theorem decides_readAt (room : Nat → Nat) : Decides (fun place : Datum × Nat => readItem (room place.2) place.1)
    (fun place => Describes (room place.2) place.1) fun place => Misdescribes (room place.2) place.1 :=
  ⟨(decides_readItem _).ok_iff,(decides_readItem _).error_iff⟩

theorem readAll_of_collects (collects : Collects room data exercises) : readAll room data = .ok exercises := by
  obtain ⟨holds,each⟩ := collects
  rw [readAll_of_holds holds]
  exact (decides_readAt room).mapM.ok_iff.mpr each

/-- Items that are described whatever room is left make a collection. -/
theorem Collects.of_forall₂ (holds : Holds data items)
    (each : List.Forall₂ (fun item described => ∀ room, Describes room item described) items exercises) :
    Collects room data exercises := by
  rw [← List.zipIdx_map_fst 0 items] at each
  exact .mk holds ((List.forall₂_map_left_iff.mp each).imp fun place _ describes => describes (room place.2))
theorem Collects.mono {more : Nat → Nat} (le : ∀ i, room i ≤ more i) (collects : Collects room data exercises) :
    Collects more data exercises := by
  obtain ⟨holds,each⟩ := collects
  exact .mk holds (each.imp fun place _ describes => describes.mono (le place.2))

theorem readAll_of_violates (violates : Violates room data error) : readAll room data = .error error := by
  cases violates with
  | notCollection notHolds =>
    rcases holds_or_notCollection room data with ⟨items,holds⟩ | ⟨-,refused⟩
    · exact absurd holds (notHolds items)
    · exact refused
  | item holds first =>
    rw [readAll_of_holds holds]
    exact (decides_readAt room).mapM.error_iff.mpr first
theorem collects_or_violates (room : Nat → Nat) (data : Datum) :
    (∃ exercises, readAll room data = .ok exercises ∧ Collects room data exercises) ∨
      ∃ error, readAll room data = .error error ∧ Violates room data error := by
  rcases holds_or_notCollection room data with ⟨items,holds⟩ | ⟨notHolds,refused⟩
  · rw [readAll_of_holds holds]
    cases read : readEach room readItem items with
    | ok exercises => exact .inl ⟨exercises,rfl,.mk holds ((decides_readAt room).mapM.ok_iff.mp read)⟩
    | error error => exact .inr ⟨error,rfl,.item holds ((decides_readAt room).mapM.error_iff.mp read)⟩
  · exact .inr ⟨_,refused,.notCollection notHolds⟩

theorem decides_readAll (room : Nat → Nat) : Decides (readAll room) (Collects room) (Violates room) :=
  .of_outcomes (collects_or_violates room) (fun _ _ => readAll_of_collects) fun _ _ => readAll_of_violates

/-! ### Categories -/

/-- A name in a collection is nested deeper than there is room for it. -/
def HasDeepName (room : Nat → Nat) (data : Datum) : Prop :=
  ∃ items fields i, Holds data items ∧ (.dict fields,i) ∈ items.zipIdx ∧
    ∃ part ∈ ((field? fields nameKey).getD .null).parts 0, room i < part.1

theorem Misspells.category {value : Datum} (misspells : Misspells value error) : error.category = .value := by
  cases misspells <;> rfl
theorem Misshows.category {value : Datum} (misshows : Misshows value error) : error.category = .value := by
  cases misshows with
  | noOutput | notExample => rfl
  | input _ misspelled | output _ _ misspelled => exact misspelled.category
theorem Misnames.category {room : Nat} {name : Datum} (misnames : Misnames room name error) :
    error.category = .value ∨ ∃ part ∈ name.parts 0, room < part.1 := by
  cases misnames with
  | nothing => exact .inl rfl
  | unwritable _ first =>
    obtain ⟨part,member,obstructs⟩ := first.exists_mem
    cases obstructs with
    | tooDeep deep => exact .inr ⟨part,member,deep⟩
    | longNumber => exact .inl rfl
theorem MisdescribesParts.category {room : Nat} {name examples : Datum}
    (misdescribes : MisdescribesParts room name examples error) :
    error.category = .value ∨ ∃ part ∈ name.parts 0, room < part.1 := by
  cases misdescribes with
  | name misnamed => exact misnamed.category
  | noExamples => exact .inl rfl
  | shown _ first =>
    obtain ⟨value,-,misshows⟩ := first.exists_mem
    exact .inl misshows.category

/-- What is reported is wrong with the value, unless it is a name that is nested too deep. -/
theorem Violates.category (violates : Violates room data error) : error.category = .value ∨ HasDeepName room data := by
  cases violates with
  | notCollection => exact .inl rfl
  | item holds first =>
    obtain ⟨⟨item,i⟩,member,misdescribes⟩ := first.exists_mem
    cases misdescribes with
    | notMapping => exact .inl rfl
    | parts parts => exact parts.category.imp_right fun deep => ⟨_,_,i,holds,member,deep⟩

end

/-- Whatever the value and whatever room is left for its names, it is read if and only if it follows the grammar of
    collections, with the exercises that it describes; and otherwise the first violation of the grammar is reported. As
    long as no name is nested deeper than there is room, that is an error of the value. More room makes no difference to
    what is read. -/
theorem readAll_ok_or_error (room : Nat → Nat) (data : Datum) :
    (∀ exercises, readAll room data = .ok exercises ↔ Collects room data exercises) ∧
      (∀ error, readAll room data = .error error ↔ Violates room data error) ∧
      (∀ error, readAll room data = .error error → error.category = .value ∨ HasDeepName room data) ∧
      ∀ more exercises, (∀ i, room i ≤ more i) → readAll room data = .ok exercises →
        readAll more data = .ok exercises := by
  have decides := decides_readAll room
  refine ⟨fun _ => decides.ok_iff,fun _ => decides.error_iff,fun error failed => ?_,fun more exercises le read => ?_⟩
  · exact (decides.error_iff.mp failed).category
  · exact readAll_of_collects ((decides.ok_iff.mp read).mono le)

/-- A name that is not nothing is not enough, though the one example under it is well formed: neither a whole number of
    one digit too many is a name nor a list that is nested one level too deep, and for the latter the value is not to
    blame. -/
theorem unwritable_not_name :
    let shown : Datum := .list [.text (lit "a"),.text (lit "b")]
    let read := fun name => readAll (fun _ => 990) (.list [item name (.list [shown])])
    let long : Datum := .int (Nat.pow 10 Decimal.mostDigits)
    let deep : Datum := nested 991
    Shows shown ⟨[97],[98]⟩ ∧
      (long.isNothing = false ∧ read long = .error (.unwritable .longNumber)) ∧
      deep.isNothing = false ∧ read deep = .error (.unwritable .tooDeep) ∧
        (ExerciseError.unwritable .tooDeep).category ≠ .value := by
  intro shown read long deep
  have a : Spells (.text (lit "a")) [97] := .text [97]
  have b : Spells (.text (lit "b")) [98] := .text [98]
  have misnamed : Misnames 990 deep (.unwritable .tooDeep) :=
    (decides_readName 990).error_iff.mp ((readName_nested 990 990).trans (if_neg (lt_irrefl _)))
  refine ⟨.mk (.pair (.list _)) a b,⟨by decide +kernel,by decide +kernel⟩,rfl,?_,by decide⟩
  exact readAll_of_violates (.item (.list _) (.here (.parts (.name misnamed))))

end TapeArena.Exercise
