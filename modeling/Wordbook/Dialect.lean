import Wordbook.Cell.Parts
import Wordbook.Lexeme
import Wordbook.Row

/-!
# Dialects

A dialect cell tells in which dialects the variants of a cell are used. It holds
a group of names for each variant, with tildes between the groups.

| dialect cell | variants | dialects                                   |
|--------------|----------|--------------------------------------------|
| blank        | any      | the default dialects for every variant     |
| `a, b`       | 1        | those named; a tilde is an error           |
| `a ~ b, c`   | n > 1    | n groups, the i-th for the i-th variant    |

A blank group stands for the default dialects. One unknown name and the whole
cell is refused, so that no variant gets a part of its dialects.

* `Dialects.distribute`: the variants with their dialects;
* `Dialects.assign`: the same for variants that are kept where they are.
-/

namespace Wordbook

/-- The ids of the dialects that a provider knows, and its default dialects. -/
structure Dialects where
  lookup : SortedMap String Int64
  defaults : SortedSet Int64
  deriving DecidableEq

/-- The groups of a dialect cell, as they are written. -/
def Cell.dialectGroups (cell : List Char) : List (List Char) := Text.pieces '~' cell

namespace Dialects

/-- The dialects that a group names. -/
def named (lookup : SortedMap String Int64) (group : List Char) :
    Except CellError (SortedSet Int64) := do
  let ids ← (Cell.names group).mapM fun name =>
    match lookup.get? (String.ofList name) with
    | some id => .ok id
    | none => .error (CellError.unknownDialect (String.ofList name))
  return SortedSet.ofList ids

/-- The dialects of a group; a blank one has the default dialects. -/
def group (ds : Dialects) (text : List Char) : Except CellError (SortedSet Int64) :=
  (named ds.lookup text).map fun ids => if ids.isEmpty then ds.defaults else ids

/-- The dialects of each of some variants. -/
def resolve (ds : Dialects) (cell : List Char) (variants : Nat) :
    Except CellError (List (SortedSet Int64)) :=
  if Text.isBlankText cell then .ok (List.replicate variants ds.defaults)
  else if variants = 1 then
    if cell.contains '~' then .error (.tildeForSingleVariant (String.ofList cell))
    else (ds.group cell).map fun ids => [ids]
  else
    let groups := Cell.dialectGroups cell
    if groups.length = variants then groups.mapM ds.group
    else .error (.dialectGroupMismatch groups.length variants)

/-- The text of the dialect cell of a row; there is none without a dialect column. -/
def cell (row : Row) (column : Option Nat) : List Char :=
  match column with
  | some column => Text.trim (row.cell column).toList
  | none => []

/-- The variants with the dialects that their row tells. -/
def distribute (ds : Dialects) (variants : List Variant) (row : Row) (column : Option Nat) :
    Except CellError (List Variant) :=
  (ds.resolve (cell row column) variants.length).map fun sets =>
    variants.zipWith (fun variant ids => { variant with dialectIds := some ids }) sets

/-- The distribution over variants in their place. Nothing is assigned before the whole cell is
understood. -/
def assign (ds : Dialects) (row : Row) (column : Option Nat) :
    ExceptT CellError (StateM (List Variant)) Unit := do
  let sets ← ds.resolve (cell row column) (← get).length
  modify fun variants =>
    variants.zipWith (fun variant ids => { variant with dialectIds := some ids }) sets

end Dialects

end Wordbook
