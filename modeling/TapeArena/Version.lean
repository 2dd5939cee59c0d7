import TapeArena.Text.Basic

/-!
The version under which the arena answers.
-/
namespace TapeArena

def version : Text := lit "0.1.0"

end TapeArena
