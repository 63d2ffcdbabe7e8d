import Wordbook.Row
import Wordbook.Text.Blank
import Wordbook.Text.Split

/-!
# Row layouts

How lines are cut into rows: the character between cells, the width that rows
are filled up to, and the least number of cells that a line must hold.
-/

namespace Wordbook

/-- Why a line gives no row that can be built. -/
inductive RowError where
  | tooShort (found least : Nat)
  /-- No creator is configured for this part of speech. -/
  | unknownPos (tag : String)
  deriving DecidableEq, Repr

def RowError.message : RowError → String
  | tooShort found least => s!"row has {found} columns, at least {least} required"
  | unknownPos tag => s!"no creator configured for part of speech '{tag}'"

structure Row.Layout where
  separator : Char
  columnCount : Nat
  minColumnCount : Nat
  deriving DecidableEq, Repr

namespace Row.Layout

/-- Whether all cells of a line are blank. -/
def isBlank (layout : Layout) (line : List Char) : Bool :=
  (Text.pieces layout.separator line).all Text.isBlankText

/-- The row of a line, its cells without the blanks around them. -/
def split (layout : Layout) (number : Nat) (line : List Char) : Except RowError Row :=
  let cells := (Text.pieces layout.separator line).map fun c => String.ofList (Text.trim c)
  if cells.length < layout.minColumnCount then
    .error (.tooShort cells.length layout.minColumnCount)
  else .ok (Row.padded number cells layout.columnCount)

end Row.Layout

end Wordbook
