import Wordbook.Import.Line
import Wordbook.Import.RowResult

/-!
# The counts of a run

How many lines and rows of each kind there were, and what was made of them.
-/

namespace Wordbook

structure Stats where
  /-- Lines that are neither skipped nor blank. -/
  linesRead : Nat
  blankLines : Nat
  skippedLines : Nat
  rowsAccepted : Nat
  /-- Lines that give no row. -/
  rowsRejected : Nat
  rowsFiltered : Nat
  /-- Accepted rows that have no bundles because some provider failed. -/
  rowsFailed : Nat
  bundles : Nat
  variants : Nat
  deriving DecidableEq, Repr

namespace Stats

def zero : Stats := ⟨0, 0, 0, 0, 0, 0, 0, 0, 0⟩

/-- The counts when the lines of a source have been read. -/
def ofLines (outcomes : List LineOutcome) : Stats where
  linesRead := outcomes.countP (·.isRead)
  blankLines := outcomes.countP (·.isBlank)
  skippedLines := outcomes.countP (·.isSkipped)
  rowsAccepted := outcomes.countP (·.isAccepted)
  rowsRejected := outcomes.countP (·.isRejected)
  rowsFiltered := outcomes.countP (·.isFiltered)
  rowsFailed := 0
  bundles := 0
  variants := 0

/-- The counts when the rows have been built. -/
def addRows (s : Stats) (results : List RowResult) : Stats :=
  let bundles := results.flatMap fun r => r.bundles.getD []
  { s with
    rowsFailed := s.rowsFailed + results.countP (·.bundles.isNone)
    bundles := s.bundles + bundles.length
    variants := s.variants + (bundles.flatMap (·.variants)).length }

end Stats

end Wordbook
