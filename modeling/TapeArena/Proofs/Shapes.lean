import TapeArena.Proofs.Grammar

/-!
The shapes of a collection. A mapping from names to examples says the same as the list of its entries, unless one of
the names is `tasks`, which stands for the list of exercises itself (`readAll_mapping`). A collection that is written in
any of the ways that a list of exercises, or a mapping with that list, allows is read as what was written
(`readAll_rendered`).
-/
namespace TapeArena.Exercise
open Datum

/-! ### Fields -/

/-- No key of a mapping occurs twice. -/
def KeysDiffer (fields : List (Datum × Datum)) : Prop := fields.Pairwise fun a b => sameKey a.1 b.1 = false

instance : DecidablePred KeysDiffer := fun fields =>
  inferInstanceAs (Decidable (fields.Pairwise fun a b => sameKey a.1 b.1 = false))

theorem isText_iff {key : Text} {value : Datum} : value.isText key = true ↔ value = .text key := by
  cases value <;> simp [isText]

section
variable {fields : List (Datum × Datum)} {key : Text} {value : Datum}

theorem field?_eq_none_iff : field? fields key = none ↔ ∀ value, (.text key,value) ∉ fields := by
  rw [field?,Option.map_eq_none_iff,List.find?_eq_none]
  constructor
  · exact fun missing value member => missing _ member (isText_iff.mpr rfl)
  · rintro missing ⟨present,value⟩ member isKey
    rw [isText_iff.mp isKey] at member
    exact missing value member

/-- The only field with a key is the one that is found under it, wherever it stands. -/
theorem field?_of_mem (differ : KeysDiffer fields) (member : (.text key,value) ∈ fields) :
    field? fields key = some value := by
  induction fields with
  | nil => cases member
  | cons first rest ih =>
    obtain ⟨others,differLater⟩ := List.pairwise_cons.mp differ
    rcases List.mem_cons.mp member with rfl | inRest
    · have isKey : (Datum.text key).isText key = true := isText_iff.mpr rfl
      simp [field?,isKey]
    · have notKey : ¬ first.1.isText key := by
        intro isKey
        have same := others _ inRest
        rw [isText_iff.mp isKey] at same
        simp [sameKey] at same
      have passed : field? (first :: rest) key = field? rest key := by simp [field?,notKey]
      rw [passed,ih differLater inRest]

end

/-! ### Mappings from names to examples -/

def mapping (entries : List (Text × List Datum)) : Datum := .dict (entries.map fun entry => (.text entry.1,.list entry.2))
/-- The list of the entries of such a mapping, each with its name and its list. -/
def listing (entries : List (Text × List Datum)) : Datum :=
  .list (entries.map fun entry => item (.text entry.1) (.list entry.2))

/-- An exercise is entered: its name is not empty, and under it stand values that show its examples, at least one. -/
inductive Enters : Text × List Datum → Exercise → Prop
  | mk {name : Text} {examples : List Datum} {shown : List Example} (named : name ≠ []) (nonempty : examples ≠ [])
    (each : List.Forall₂ Shows examples shown) : Enters (name,examples) ⟨name,shown⟩

/-- A text that is not empty is a name, however little room there is. -/
theorem names_text {room : Nat} {name : Text} (nonempty : name ≠ []) : Names room (.text name) name :=
  .mk (by simp [isNothing,nonempty]) (by simp [parts,Fits,isLong])

theorem describes_item {room : Nat} {entry : Text × List Datum} {entered : Exercise} (enters : Enters entry entered) :
    Describes room (item (.text entry.1) (.list entry.2)) entered := by
  obtain ⟨named,nonempty,each⟩ := enters
  exact .mk (.mk (names_text named) nonempty each)

section
variable {entries : List (Text × List Datum)} {exercises : List Exercise}

theorem collects_items {room : Nat → Nat} {data : Datum}
    (holds : Holds data (entries.map fun entry => item (.text entry.1) (.list entry.2)))
    (each : List.Forall₂ Enters entries exercises) : Collects room data exercises :=
  .of_forall₂ holds (List.forall₂_map_left_iff.mpr (each.imp fun _ _ enters _ => describes_item enters))

theorem mem_mapping {name : Text} {value : Datum} :
    (.text name,value) ∈ entries.map (fun entry => (Datum.text entry.1,Datum.list entry.2)) ↔
      ∃ examples, value = .list examples ∧ (name,examples) ∈ entries := by
  rw [List.mem_map]
  constructor
  · rintro ⟨⟨name,examples⟩,member,is⟩
    cases is
    exact ⟨examples,rfl,member⟩
  · rintro ⟨examples,rfl,member⟩
    exact ⟨(name,examples),member,rfl⟩

theorem holds_mapping (notTasks : tasksKey ∉ entries.map Prod.fst) :
    Holds (mapping entries) (entries.map fun entry => item (.text entry.1) (.list entry.2)) := by
  have missing : field? (entries.map fun entry => (.text entry.1,.list entry.2)) tasksKey = none := by
    rw [field?_eq_none_iff]
    intro value member
    obtain ⟨examples,-,member⟩ := mem_mapping.mp member
    exact notTasks (List.mem_map_of_mem member)
  have holds : Holds (mapping entries) _ := .mapping fun items found => (nomatch missing.symm.trans found)
  rwa [List.map_map] at holds

theorem keysDiffer_mapping (distinct : (entries.map Prod.fst).Nodup) :
    KeysDiffer (entries.map fun entry => (.text entry.1,.list entry.2)) := by
  refine List.pairwise_map.mpr ((List.pairwise_map.mp distinct).imp fun differ => ?_)
  simpa [sameKey] using differ

/-- Whatever the names and the room for them, a list of exercises is read entry by entry, and so is the mapping with the
    same entries, as long as none of the names is `tasks`. Under that name stands the list of exercises itself, and the
    mapping says no more than that list. -/
theorem readAll_mapping (room : Nat → Nat) (each : List.Forall₂ Enters entries exercises)
    (distinct : (entries.map Prod.fst).Nodup) :
    readAll room (listing entries) = .ok exercises ∧
      (tasksKey ∉ entries.map Prod.fst → readAll room (mapping entries) = .ok exercises) ∧
      ∀ examples, (tasksKey,examples) ∈ entries → readAll room (mapping entries) = readAll room (.list examples) := by
  refine ⟨readAll_of_collects (collects_items (.list _) each),fun notTasks => ?_,fun examples member => ?_⟩
  · exact readAll_of_collects (collects_items (holds_mapping notTasks) each)
  · have found := field?_of_mem (keysDiffer_mapping distinct) (mem_mapping.mpr ⟨examples,rfl,member⟩)
    rw [readAll_of_holds (.list examples)]
    exact readAll_of_holds (.tasks found)

end

/-- Two exercises with examples in lists and tuples. -/
theorem readAll_mapping_two :
    let entries : List (Text × List Datum) := [(lit "inc",[.list [.list [.int 1],.list [.int 2]],.tuple [.null,.text [1]]]),
      (lit "task",[.dict [(.text outputKey,.text (lit "A"))]])]
    let exercises : List Exercise := [⟨lit "inc",[⟨[1],[2]⟩,⟨[],[1]⟩]⟩,⟨lit "task",[⟨[],[65]⟩]⟩]
    List.Forall₂ Enters entries exercises ∧ (entries.map Prod.fst).Nodup ∧ tasksKey ∉ entries.map Prod.fst ∧
      readAll (fun _ => 0) (mapping entries) = .ok exercises := by
  intro entries exercises
  have each : List.Forall₂ Enters entries exercises :=
    .cons (.mk (List.cons_ne_nil _ _) (List.cons_ne_nil _ _)
      (.cons (decides_readExample.ok_iff.mp rfl) (.cons (decides_readExample.ok_iff.mp rfl) .nil)))
    (.cons (.mk (List.cons_ne_nil _ _) (List.cons_ne_nil _ _) (.cons (decides_readExample.ok_iff.mp rfl) .nil)) .nil)
  have distinct : (entries.map Prod.fst).Nodup := by decide
  have notTasks : tasksKey ∉ entries.map Prod.fst := by decide
  exact ⟨each,distinct,notTasks,(readAll_mapping _ each distinct).2.1 notTasks⟩

/-- An exercise with the name `tasks` is read from a list of items, but not from a mapping. -/
theorem tasks_not_name :
    let entries : List (Text × List Datum) := [(tasksKey,[.list [.text (lit "a"),.text (lit "b")]])]
    let exercises : List Exercise := [⟨tasksKey,[⟨[97],[98]⟩]⟩]
    List.Forall₂ Enters entries exercises ∧ (entries.map Prod.fst).Nodup ∧
      readAll (fun _ => 0) (listing entries) = .ok exercises ∧
      readAll (fun _ => 0) (mapping entries) = .error .notMapping := by
  intro entries exercises
  have each : List.Forall₂ Enters entries exercises :=
    .cons (.mk (List.cons_ne_nil _ _) (List.cons_ne_nil _ _) (.cons (decides_readExample.ok_iff.mp rfl) .nil)) .nil
  exact ⟨each,by decide,rfl,rfl⟩

/-! ### Ways of writing -/

/-- A way of writing an example: with names for its input and output in any order and among others, where an empty
    input may be left out, or as a pair. -/
inductive RendersExample : Datum → Example → Prop
  | fields {fields : List (Datum × Datum)} {input output : Datum} {written : Example} (differ : KeysDiffer fields)
    (hasInput : (.text inputKey,input) ∈ fields) (inputSpelled : Spells input written.input)
    (hasOutput : (.text outputKey,output) ∈ fields) (outputSpelled : Spells output written.expected) :
    RendersExample (.dict fields) written
  | noInput {fields : List (Datum × Datum)} {output : Datum} {expected : Bytes} (differ : KeysDiffer fields)
    (leftOut : ∀ input, (.text inputKey,input) ∉ fields) (hasOutput : (.text outputKey,output) ∈ fields)
    (outputSpelled : Spells output expected) : RendersExample (.dict fields) ⟨[],expected⟩
  | pair {value input output : Datum} {written : Example} (isPair : IsSequence value [input,output])
    (inputSpelled : Spells input written.input) (outputSpelled : Spells output written.expected) :
    RendersExample value written

/-- A way of writing an exercise: with names for its name and its examples in any order and among others. -/
inductive RendersExercise : Datum → Exercise → Prop
  | mk {fields : List (Datum × Datum)} {examples : List Datum} {written : Exercise} (differ : KeysDiffer fields)
    (hasName : (.text nameKey,.text written.name) ∈ fields) (hasExamples : (.text examplesKey,.list examples) ∈ fields)
    (each : List.Forall₂ RendersExample examples written.examples) : RendersExercise (.dict fields) written

/-- A way of writing a collection: as a list, or as a mapping with that list under `tasks`, among other fields. -/
inductive Renders : Datum → List Exercise → Prop
  | list {items : List Datum} {exercises : List Exercise} (each : List.Forall₂ RendersExercise items exercises) :
    Renders (.list items) exercises
  | tasks {fields : List (Datum × Datum)} {items : List Datum} {exercises : List Exercise} (differ : KeysDiffer fields)
    (hasTasks : (.text tasksKey,.list items) ∈ fields) (each : List.Forall₂ RendersExercise items exercises) :
    Renders (.dict fields) exercises

theorem shows_of_renders {value : Datum} {written : Example} (renders : RendersExample value written) :
    Shows value written := by
  cases renders with
  | fields differ hasInput inputSpelled hasOutput outputSpelled =>
    refine .mk (.fields (field?_of_mem differ hasOutput)) ?_ outputSpelled
    rw [field?_of_mem differ hasInput]
    exact inputSpelled
  | noInput differ leftOut hasOutput outputSpelled =>
    refine .mk (.fields (field?_of_mem differ hasOutput)) ?_ outputSpelled
    rw [field?_eq_none_iff.mpr leftOut]
    exact .nothing
  | pair isPair inputSpelled outputSpelled => exact .mk (.pair isPair) inputSpelled outputSpelled

/-- An exercise that has a name and examples is described by whatever it is written as. -/
theorem describes_of_renders {room : Nat} {value : Datum} {written : Exercise} (named : written.name ≠ [])
    (nonempty : written.examples ≠ []) (renders : RendersExercise value written) : Describes room value written := by
  obtain ⟨differ,hasName,hasExamples,each⟩ := renders
  refine .mk ?_
  rw [field?_of_mem differ hasName,field?_of_mem differ hasExamples]
  refine .mk (names_text named) ?_ (each.imp fun _ _ => shows_of_renders)
  rintro rfl
  exact nonempty (List.forall₂_nil_left_iff.mp each)

theorem describes_of_renders_all {items : List Datum} {exercises : List Exercise}
    (complete : ∀ written ∈ exercises, written.name ≠ [] ∧ written.examples ≠ [])
    (each : List.Forall₂ RendersExercise items exercises) :
    List.Forall₂ (fun item described => ∀ room, Describes room item described) items exercises := by
  induction each with
  | nil => exact .nil
  | cons renders rest ih =>
    obtain ⟨named,nonempty⟩ := complete _ List.mem_cons_self
    exact .cons (fun _ => describes_of_renders named nonempty renders)
      (ih fun written member => complete written (List.mem_cons_of_mem _ member))

/-- Whatever the way in which exercises with names and examples are written, they are what is read. -/
theorem readAll_rendered (room : Nat → Nat) {data : Datum} {exercises : List Exercise}
    (complete : ∀ written ∈ exercises, written.name ≠ [] ∧ written.examples ≠ []) (renders : Renders data exercises) :
    readAll room data = .ok exercises := by
  cases renders with
  | list each => exact readAll_of_collects (.of_forall₂ (.list _) (describes_of_renders_all complete each))
  | tasks differ hasTasks each =>
    exact readAll_of_collects
      (.of_forall₂ (.tasks (field?_of_mem differ hasTasks)) (describes_of_renders_all complete each))

/-- One exercise in a mapping that has another field; its examples are a tuple with a negative and a large number, and a
    mapping without an input. -/
theorem readAll_rendered_mixed :
    let pair : Datum := .tuple [.list [.int (-255)],.tuple [.int 258]]
    let outputOnly : Datum := .dict [(.null,.bool true),(.text outputKey,.text [255])]
    let item : Datum :=
      .dict [(.text examplesKey,.list [pair,outputOnly]),(.text (lit "level"),.int 3),(.text nameKey,.text (lit "inc"))]
    let data : Datum := .dict [(.text (lit "version"),.int 2),(.text tasksKey,.list [item])]
    let exercises : List Exercise := [⟨lit "inc",[⟨[1],[2]⟩,⟨[],[255]⟩]⟩]
    (∀ written ∈ exercises, written.name ≠ [] ∧ written.examples ≠ []) ∧ Renders data exercises ∧
      readAll (fun _ => 0) data = .ok exercises := by
  intro pair outputOnly item data exercises
  have one : Spells (.list [.int (-255)]) [1] := .sequence (.list _) (.cons (.int (by decide)) .nil)
  have two : Spells (.tuple [.int 258]) [2] := .sequence (.tuple _) (.cons (.int (by decide)) .nil)
  have first : RendersExample pair ⟨[1],[2]⟩ := .pair (.tuple _) one two
  have second : RendersExample outputOnly ⟨[],[255]⟩ :=
    .noInput (by decide) (field?_eq_none_iff.mp rfl) (.tail _ (.head _)) (.text [255])
  have only : RendersExercise item exercises[0] :=
    .mk (by decide) (.tail _ (.tail _ (.head _))) (.head _) (.cons first (.cons second .nil))
  have renders : Renders data exercises := .tasks (by decide) (.tail _ (.head _)) (.cons only .nil)
  have complete : ∀ written ∈ exercises, written.name ≠ [] ∧ written.examples ≠ [] := by decide
  exact ⟨complete,renders,readAll_rendered _ complete renders⟩

end TapeArena.Exercise
