/-!
# Rows

A row is one line of a source, cut into cells. A row shorter than the layout is
wide gets empty cells at its end; a longer one keeps all its cells.
-/

namespace Wordbook

/-- One line of a source, cut into cells. -/
structure Row where
  /-- The number of the line in its source, counted from 1. -/
  line : Nat
  cells : List String
  deriving DecidableEq, Repr

namespace Row

/-- A row that is at least `width` cells wide. -/
def padded (line : Nat) (cells : List String) (width : Nat) : Row :=
  ⟨line, cells ++ List.replicate (width - cells.length) ""⟩

/-- The cell of a column; beyond the row's end it is empty. -/
def cell (row : Row) (column : Nat) : String := row.cells.getD column ""

theorem cell_padded (line : Nat) (cells : List String) (width column : Nat) :
    (padded line cells width).cell column = cells.getD column "" := by
  simp only [padded, cell, List.getD_eq_getElem?_getD, List.getElem?_append]
  split
  · rfl
  · rename_i h
    rw [List.getElem?_eq_none (Nat.le_of_not_lt h), List.getElem?_replicate]
    split <;> rfl

end Row

end Wordbook
