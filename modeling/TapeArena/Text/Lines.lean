import TapeArena.Text.Basic

/-!
Ends of lines. A file may end its lines with a line feed, a carriage return, or both; it is read as if all
of them were line feeds.
-/
namespace TapeArena.Text

/-- Every end of a line as one line feed. -/
def unifyLines : Text → Text
  | [] => []
  | c :: rest =>
    if c.is '\r' then
      match rest with
      | d :: more => .ofChar '\n' :: (if d.is '\n' then unifyLines more else unifyLines (d :: more))
      | [] => lit "\n"
    else c :: unifyLines rest

end TapeArena.Text
