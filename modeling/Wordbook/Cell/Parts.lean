import Wordbook.Cell.Error
import Wordbook.Text.Blank
import Wordbook.Text.Split

/-!
# The parts of a cell

A cell holds one part or several with commas between them, and each part one
spelling or several alternatives with tildes between them. A block in
parentheses at the end of a cell holds metadata; its commas separate nothing.

* `trailingBlock`: the block at the end of a text, and the text before it;
* `Parts.ofCell`: the parts of a cell, the block still attached to the last one;
* `alternative`: the alternative of a part at some index.
-/

namespace Wordbook.Cell

open Text (pieces trim trimEnd)

/-- What stands before and after the last space that an opening parenthesis follows. Neither part
holds that space or that parenthesis. -/
def cutAtBlock : List Char → Option (List Char × List Char)
  | [] => none
  | c :: t =>
    match cutAtBlock t with
    | some (before, after) => some (c :: before, after)
    | none =>
      match c, t with
      | ' ', '(' :: after => some ([], after)
      | _, _ => none

/-- The text before a block in parentheses at the end of a text, and what the block holds. -/
def trailingBlock (t : List Char) : Option (List Char × List Char) :=
  let t := trimEnd t
  if t.getLast? = some ')' then
    (cutAtBlock t).map fun (before, after) => (trimEnd before, after.dropLast)
  else none

/-- The names of a list with commas between them, blank ones dropped. -/
def names (t : List Char) : List (List Char) :=
  ((pieces ',' t).map trim).filter fun name => !name.isEmpty

/-- The structural parts of a cell: a last part, which may carry metadata, and those before it. -/
structure Parts where
  before : List (List Char)
  last : List Char
  deriving DecidableEq, Repr

namespace Parts

def toList (p : Parts) : List (List Char) := p.before ++ [p.last]

def size (p : Parts) : Nat := p.before.length + 1

/-- The first part. A cell has one. -/
def first (p : Parts) : List Char := p.before.headD p.last

/-- The parts of a cell that stand before its trailing block, and that block as it is written. -/
def splitBlock (cell : List Char) : List Char × List Char :=
  match cutAtBlock cell with
  | some (before, after) =>
    if cell.getLast? = some ')' then (before, ' ' :: '(' :: after) else (cell, [])
  | none => (cell, [])

/-- The parts of a cell. One without a comma outside its trailing block is a single part; any other
has to have `expected` parts. -/
def ofCell (cell : List Char) (expected : Nat) : Except CellError Parts :=
  let cell := trim cell
  let (head, block) := splitBlock cell
  if head.contains ',' then
    let ps := (pieces ',' head).map trim
    if ps.length = expected then .ok ⟨ps.dropLast, ps.getLastD [] ++ block⟩
    else .error (.partCount expected ps.length)
  else .ok ⟨[], cell⟩

end Parts

def alternativeCount (part : List Char) : Nat := (pieces '~' part).length

/-- The greatest number of alternatives of a part, which is the number of variants of a cell. -/
def maxAlternatives (parts : List (List Char)) : Nat :=
  parts.foldl (fun n part => max n (alternativeCount part)) 0

/-- The alternative of a part at an index, without the blanks around it. A part with a single
alternative has the same one at every index. -/
def alternative (part : List Char) (index : Nat) : Except CellError (List Char) :=
  let chosen : Except CellError (List Char) := match pieces '~' part with
    | [only] => .ok only
    | ps =>
      match ps[index]? with
      | some piece => .ok piece
      | none => .error (.alternativeOutOfRange (String.ofList part) index ps.length)
  chosen.bind fun piece =>
    let text := trim piece
    if text.isEmpty then .error (.emptyAlternative (String.ofList part)) else .ok text

end Wordbook.Cell
