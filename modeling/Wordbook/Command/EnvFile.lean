import Wordbook.Command.Script
import Wordbook.Text.Alphanumeric
import Wordbook.Text.Blank
import Wordbook.Text.Utf8

/-!
# Files of environment variables

A file of lines such as `NAME=value`, which sets the variables that are not yet
set. A line may begin with `export`, and end in a comment. In a value

* text between single quotes stands as it is, and between double quotes as it
  is but for escapes and variables;
* a backslash stands before a character that counts as itself, or before `n`
  for a line feed;
* `$NAME` and `${NAME}` stand for the value of a variable.

A quoted value may go on over several lines. What stands behind the first line
that cannot be read is passed over.
-/

namespace Wordbook.EnvFile

/-- Where a reader of lines stands, to tell whether a line end is quoted. -/
inductive Quoting where
  | plain
  /-- Behind a blank, where a comment may begin. -/
  | blank
  | escape
  | weak
  | weakEscape
  | strong
  | strongEscape
  deriving DecidableEq, Repr

/-- Where a reader stands that is outside quotes, behind a character. -/
def Quoting.open (c : Char) : Option Quoting :=
  if c = '\\' then some escape
  else if c = '"' then some weak
  else if c = '\'' then some strong
  else none

/-- Where a reader stands behind a character that begins no comment. -/
def Quoting.next (q : Quoting) (c : Char) : Quoting :=
  match q with
  | plain =>
    if Text.isBlank c && c != '\n' && c != '\r' then blank else (Quoting.open c).getD plain
  | blank => (Quoting.open c).getD plain
  | escape => plain
  | weak => if c = '\\' then weakEscape else if c = '"' then plain else weak
  | weakEscape => weak
  | strong => if c = '\\' then strongEscape else if c = '\'' then plain else strong
  | strongEscape => strong

/-- What stands before a comment in a line, if it has one, and else where the reader stands behind
the line. -/
def scan (q : Quoting) : List Char → List Char × Option Quoting
  | [] => ([], some q)
  | c :: t =>
    if q = .blank ∧ c = '#' then ([], none)
    else
      let (before, q) := scan (q.next c) t
      (c :: before, q)

/-- A text as its lines, each with its line end. -/
def physicalLines : List Char → List (List Char)
  | [] => []
  | c :: t =>
    if c = '\n' then ['\n'] :: physicalLines t
    else
      match physicalLines t with
      | [] => [[c]]
      | line :: lines => (c :: line) :: lines

/-- A line without its line end. -/
def dropLineEnd (line : List Char) : List Char :=
  if line.getLast? = some '\n' then Text.dropReturn line.dropLast else line

/-- The lines of a file, a quoted line end ending none; `none` stands for a last line that is not
complete. `held` is what has been read of the line at hand. -/
def logicalLines (q : Quoting) (held : List Char) : List (List Char) → List (Option (List Char))
  | [] => if q = .plain then [] else [none]
  | line :: lines =>
    if (Text.trimStart (held ++ line)).head? = some '#' then
      some [] :: logicalLines .plain [] lines
    else
      match scan q line with
      | (before, none) => some (held ++ before) :: logicalLines .plain [] lines
      | (_, some .plain) => some (dropLineEnd (held ++ line)) :: logicalLines .plain [] lines
      | (_, some q) => logicalLines q (held ++ line) lines

/-! ## Values -/

/-- A piece of a value. -/
inductive Piece where
  | text (c : Char)
  | variable (name : List Char)
  deriving DecidableEq, Repr

/-- Where a reader of a value stands. -/
inductive Place where
  | plain
  | weak
  | strong
  /-- Behind a backslash, which may stand between double quotes. -/
  | escape (weak : Bool)
  /-- In the name of a variable, which is kept last character first. -/
  | name (weak : Bool) (name : List Char)
  /-- The same between braces. -/
  | braced (weak : Bool) (name : List Char)
  /-- Behind the value. -/
  | behind
  deriving DecidableEq, Repr

/-- The place inside or outside double quotes. -/
def Place.within (weak : Bool) : Place := if weak then .weak else .plain

def escaped? (c : Char) : Option Char :=
  if ['\\', '\'', '"', '$', ' '].contains c then some c else if c = 'n' then some '\n' else none

/-- The pieces of a value, read from a place. -/
def pieces? : Place → List Char → Option (List Piece)
  | .plain, [] => some []
  | .escape false, [] => some []
  | .behind, [] => some []
  | .name false name, [] => some [.variable name.reverse]
  | _, [] => none
  | .behind, c :: t =>
    if c = ' ' ∨ c = '\t' then pieces? .behind t else if c = '#' then some [] else none
  | .escape weak, c :: t => do
    let d ← escaped? c
    return .text d :: (← pieces? (.within weak) t)
  | .strong, c :: t =>
    if c = '\'' then pieces? .plain t else (pieces? .strong t).map (.text c :: ·)
  | .name weak name, c :: t =>
    if Text.isAlphanumeric c then pieces? (.name weak (c :: name)) t
    else if c = '\x7b' ∧ name = [] then pieces? (.braced weak []) t
    else if c = '$' then (pieces? (.name weak []) t).map (.variable name.reverse :: ·)
    else (pieces? (.within weak) t).map fun ps => .variable name.reverse :: .text c :: ps
  | .braced weak name, c :: t =>
    if c = '\x7d' then (pieces? (.within weak) t).map (.variable name.reverse :: ·)
    else pieces? (.braced weak (c :: name)) t
  | .weak, c :: t =>
    if c = '$' then pieces? (.name true []) t
    else if c = '"' then pieces? .plain t
    else if c = '\\' then pieces? (.escape true) t
    else (pieces? .weak t).map (.text c :: ·)
  | .plain, c :: t =>
    if c = '$' then pieces? (.name false []) t
    else if c = '\'' then pieces? .strong t
    else if c = '"' then pieces? .weak t
    else if c = '\\' then pieces? (.escape false) t
    else if c = ' ' ∨ c = '\t' then pieces? .behind t
    else (pieces? .plain t).map (.text c :: ·)

/-! ## Entries -/

/-- A variable and the pieces of its value. -/
structure Entry where
  name : String
  value : List Piece
  deriving DecidableEq, Repr

def isNameStart (c : Char) : Bool := c.isAlpha || c == '_'

def isNameChar (c : Char) : Bool := c.isAlphanum || c == '_' || c == '.'

/-- The name at the start of a text, and what stands behind it and the blanks after it. -/
def name? (t : List Char) : Option (List Char × List Char) :=
  match t with
  | c :: _ =>
    if isNameStart c then some (t.takeWhile isNameChar, Text.trimStart (t.dropWhile isNameChar))
    else none
  | [] => none

/-- The name that a line sets, and the value behind its equals sign. -/
def assignment? (t : List Char) : Option (List Char × List Char) := do
  let (name, rest) ← name? t
  match rest with
  | '=' :: value => some (name, Text.trimStart value)
  | _ =>
    if name = "export".toList then
      let (name, rest) ← name? rest
      match rest with
      | '=' :: value => some (name, Text.trimStart value)
      | _ => none
    else none

/-- The entry of a line, if it can be read; a line may also hold none. -/
def entry? (line : List Char) : Option (Option Entry) :=
  let line := Text.trim line
  if line.isEmpty ∨ line.head? = some '#' then some none
  else do
    let (name, value) ← assignment? line
    let value ← if value.head? = some '#' then some [] else pieces? .plain value
    return some ⟨String.ofList name, value⟩

/-- The entries of the lines before the first one that cannot be read. -/
def entriesOf : List (Option (List Char)) → List Entry
  | [] => []
  | line :: lines =>
    match line.bind entry? with
    | none => []
    | some none => entriesOf lines
    | some (some entry) => entry :: entriesOf lines

/-- The text of a file before the first line that is not UTF-8, without a byte order mark. -/
def textOf (bytes : List UInt8) : List Char :=
  let read := Text.Utf8.decode bytes
  let t := (read.takeWhile Option.isSome).filterMap id
  Source.dropMark (if read.all Option.isSome then t else (t.reverse.dropWhile (· != '\n')).reverse)

/-- The entries of a file. -/
def entries (bytes : List UInt8) : List Entry :=
  entriesOf (logicalLines .plain [] (physicalLines (textOf bytes)))

/-- The variables that a file has set. -/
abbrev Settings := SortedMap String String

/-- The value of a variable: that of the environment, or else the one that a file has set. -/
def lookup (settings : Settings) (name : String) : Script (Option String) :=
  .environment name fun value => .done (value <|> settings.get? name)

/-- The value of a variable of a file. -/
def valueOf (settings : Settings) : List Piece → Script (List Char)
  | [] => return []
  | .text c :: ps => return c :: (← valueOf settings ps)
  | .variable name :: ps => do
    let value ← lookup settings (String.ofList name)
    return (value.getD "").toList ++ (← valueOf settings ps)

/-- Sets the variables of a file. One that has been set by an earlier line stays as it is. -/
def define (settings : Settings) : List Entry → Script Settings
  | [] => return settings
  | entry :: entries => do
    let value ← valueOf settings entry.value
    if (settings.get? entry.name).isSome then define settings entries
    else define (settings.insert entry.name (String.ofList value)) entries

/-- The name of the file that is read when the program starts. -/
def path : String := ".env"

/-- The variables that the file in the working folder sets, if it is there. -/
def settings : Script Settings :=
  .load path fun
    | .ok bytes => define ∅ (entries bytes)
    | .error _ => .done ∅

end Wordbook.EnvFile
