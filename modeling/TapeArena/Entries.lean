/-!
Entries in order, one for each key. A key that is entered again keeps its place and gets the new value; a
new key goes to the end.
-/
namespace TapeArena

/-- Keys with their values, in the order in which the keys were entered first. -/
abbrev Entries (κ α : Type) := List (κ × α)

namespace Entries
variable {κ α : Type}

/-- Enters a value under a key; `same` tells which keys count as one. -/
def put (same : κ → κ → Bool) : Entries κ α → κ → α → Entries κ α
  | [], key, value => [(key,value)]
  | (present,old) :: rest, key, value =>
    if same present key then (present,value) :: rest else (present,old) :: put same rest key value
/-- The entries that arise from a list in order; of a repeated key the last value stays, at the place of the
    first. -/
def ofList (same : κ → κ → Bool) (list : List (κ × α)) : Entries κ α :=
  list.foldl (fun entries (key,value) => put same entries key value) []

end Entries

end TapeArena
