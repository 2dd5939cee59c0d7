import TapeArena.Entries
import TapeArena.Environment
import TapeArena.Text.Blank
import TapeArena.Text.Lines

/-!
Files of variables. A byte order mark at the beginning is passed over. A line gives a name and, after an
equals sign, a value: a quoted one, in which characters may be escaped, or the rest of the line up to a
comment. A line that is neither a binding nor a comment is passed over. In every value `${NAME}` and
`${NAME:-default}` stand for other variables.
-/
namespace TapeArena.Environment.File

/-- A name with its value; a name without an equals sign has none. -/
structure Binding where
  name : Text
  value : Option Text
  deriving DecidableEq

/-- A blank within a line. -/
def isInner (c : CodePoint) : Bool := c.isBlank && !c.is '\n'
/-- The text without the blanks of the line that it begins with. -/
def skipInner (text : Text) : Text := text.dropWhile isInner
/-- What follows the end of the current line. -/
def nextLine (text : Text) : Text := (text.dropWhile (!·.is '\n')).drop 1

/-! ### Names -/

/-- The text after the word `export` and the blanks behind it, which may stand before a name. -/
def skipExport (text : Text) : Text :=
  if (lit "export").isPrefixOf text && ((text.drop 6).head?.any isInner) then skipInner (text.drop 6)
  else text

/-- A run of characters of a class, which has at least one, and what follows it. -/
def run1? (keep : CodePoint → Bool) (text : Text) : Option (Text × Text) :=
  match text.takeWhile keep with
  | [] => none
  | first :: more => some (first :: more,text.dropWhile keep)

/-- A name, in single quotes or bare, and what follows it. -/
def name? (text : Text) : Option (Text × Text) :=
  if text.head?.any (·.is '\'') then
    match run1? (!·.is '\'') (text.drop 1) with
    | some (name,_ :: rest) => some (name,rest)
    | _ => none
  else run1? (fun c => !c.is '=' && !c.is '#' && !c.isBlank) text

/-! ### Values -/

/-- The text up to the quote that closes it, and what follows that quote. A backslash and the character after
    it belong together, so a quote behind it does not close. -/
def untilQuote (quote : Char) : Text → Option (Text × Text)
  | [] => none
  | c :: rest =>
    if c.is quote then some ([],rest)
    else if c.is '\\' then
      match rest with
      | d :: more => (untilQuote quote more).map fun (value,rest) => (c :: d :: value,rest)
      | [] => none
    else (untilQuote quote rest).map fun (value,rest) => (c :: value,rest)

/-- The escapes of a value in double quotes: the letter and what it stands for. -/
def doubleEscapes : List (Char × Char) :=
  [('\\','\\'),('\'','\''),('"','"'),('a','\x07'),('b','\x08'),('f','\x0C'),('n','\n'),
   ('r','\r'),('t','\t'),('v','\x0B')]
/-- The escapes of a value in single quotes. -/
def singleEscapes : List (Char × Char) := [('\\','\\'),('\'','\'')]

/-- Replaces every escape of a table; any other backslash stands for itself. -/
def unescape (escapes : List (Char × Char)) : Text → Text
  | [] => []
  | c :: rest =>
    match rest with
    | [] => [c]
    | d :: more =>
      match if c.is '\\' then d.lookup? escapes else none with
      | some meant => meant :: unescape escapes more
      | none => c :: unescape escapes (d :: more)

/-- The text up to a comment, which begins with a blank and a number sign. -/
def uncomment : Text → Text
  | [] => []
  | c :: rest =>
    if c.isBlank && (rest.dropWhile CodePoint.isBlank).head?.any (·.is '#') then [] else c :: uncomment rest

/-- A value after an equals sign, and what follows it. -/
def value? (text : Text) : Option (Text × Text) :=
  let inner := skipInner text
  if inner.head?.any (·.is '\'') then
    (untilQuote '\'' (inner.drop 1)).map fun (value,rest) => (unescape singleEscapes value,rest)
  else if inner.head?.any (·.is '"') then
    (untilQuote '"' (inner.drop 1)).map fun (value,rest) => (unescape doubleEscapes value,rest)
  else
    let line := text.takeWhile (!·.is '\n')
    some ((uncomment line).strip,text.dropWhile (!·.is '\n'))

/-! ### Bindings -/

/-- A comment, if there is one, and the end of the line. -/
def lineEnd? (text : Text) : Option Text :=
  let inner := skipInner text
  let rest := if inner.head?.any (·.is '#') then inner.dropWhile (!·.is '\n') else inner
  match rest with
  | [] => some []
  | c :: rest => if c.is '\n' then some rest else none

/-- What begins at a character that is not blank: a binding or nothing, and the lines after it. -/
def binding (text : Text) : Option Binding × Text :=
  let start := skipExport text
  if start.head?.any (·.is '#') then (none,nextLine start)
  else
    match name? start with
    | none => (none,nextLine start)
    | some (name,rest) =>
      let rest := skipInner rest
      if rest.head?.any (·.is '=') then
        match value? (rest.drop 1) with
        | none => (none,nextLine (skipInner (rest.drop 1)))
        | some (value,rest) =>
          match lineEnd? rest with
          | some next => (some ⟨name,some value⟩,next)
          | none => (none,nextLine rest)
      else
        match lineEnd? rest with
        | some next => (some ⟨name,none⟩,next)
        | none => (none,nextLine rest)

/-- The bindings of a file in order. Every turn of the reader takes at least one character. -/
def bindings (text : Text) : List Binding :=
  match text.dropWhile CodePoint.isBlank with
  | [] => []
  | c :: rest =>
    let (found,next) := binding (c :: rest)
    let later := if _shorter : next.length < text.length then bindings next else []
    found.toList ++ later
termination_by text.length
decreasing_by exact _shorter

/-! ### References -/

/-- What a name means in a reference: what is set already comes first, then what the file has given so far;
    a name that the file gives without a value means the empty text. -/
def meaning (environment : Environment) (given : Entries Text (Option Text)) (name : Text) : Option Text :=
  (environment.get? name).or ((given.lookup name).map (·.getD []))

/-- A reference behind its dollar sign and brace: the name, the default, and what follows it. -/
def reference? (text : Text) : Option (Text × Option Text × Text) :=
  let name := text.takeWhile fun c => !c.is '}' && !c.is ':'
  match text.dropWhile fun c => !c.is '}' && !c.is ':' with
  | [] => none
  | c :: rest =>
    if c.is '}' then some (name,none,rest)
    else if rest.head?.any (·.is '-') then
      match (rest.drop 1).dropWhile (!·.is '}') with
      | [] => none
      | _ :: after => some (name,some ((rest.drop 1).takeWhile (!·.is '}')),after)
    else none

/-- Replaces every reference in a value. -/
def expand (meaning : Text → Option Text) : Text → Text
  | [] => []
  | c :: rest =>
    match if c.is '$' ∧ rest.head?.any (·.is '{') then reference? (rest.drop 1) else none with
    | some (name,otherwise,after) =>
      (meaning name).getD (otherwise.getD []) ++
        (if _shorter : after.length < (c :: rest).length then expand meaning after else [])
    | none => c :: expand meaning rest
termination_by text => text.length
decreasing_by
  · exact _shorter
  · exact Nat.lt_succ_self _

/-- The bindings of a file with its ends of lines unified, the byte order mark at its beginning left out. -/
def read (text : Text) : List Binding :=
  let lines := text.unifyLines
  bindings (if lines.head?.any CodePoint.isByteOrderMark then lines.drop 1 else lines)

/-- The variables that a file gives in order, with their references replaced; the last of repeated names
    wins. -/
def given (environment : Environment) (text : Text) : Entries Text (Option Text) :=
  (read text).foldl (fun given binding =>
    let value := binding.value.map (expand (meaning environment given))
    Entries.put (fun a b => decide (a = b)) given binding.name value) []

end TapeArena.Environment.File
