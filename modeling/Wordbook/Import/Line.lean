import Wordbook.Config
import Wordbook.Diagnostic
import Wordbook.Source

/-!
# The lines of a source

What becomes of each line when a source is read. Every line has exactly one
outcome (`Config.readLine`), and the outcome hangs on no other line.
-/

namespace Wordbook

/-- What becomes of a line. -/
inductive LineOutcome where
  /-- The configuration passes over the line. -/
  | skipped
  | blank
  /-- The line gives no row; the column is told where one is to blame. -/
  | rejected (line : Nat) (error : RowError) (column : Option Nat)
  /-- The row is of no interest. -/
  | filtered
  | accepted (row : Row)
  deriving DecidableEq, Repr

namespace LineOutcome

/-- The context of the diagnostics about lines. -/
def context : String := "reader"

def row? : LineOutcome → Option Row
  | accepted row => some row
  | _ => none

def diagnostic? : LineOutcome → Option Diagnostic
  | rejected line error column => some ⟨.error, error.message, context, line, column⟩
  | _ => none

def isSkipped : LineOutcome → Bool
  | skipped => true
  | _ => false

def isBlank : LineOutcome → Bool
  | blank => true
  | _ => false

def isRejected : LineOutcome → Bool
  | rejected .. => true
  | _ => false

def isFiltered : LineOutcome → Bool
  | filtered => true
  | _ => false

def isAccepted : LineOutcome → Bool
  | accepted _ => true
  | _ => false

/-- Whether a line is looked at, being neither skipped nor blank. -/
def isRead (o : LineOutcome) : Bool := !o.isSkipped && !o.isBlank

end LineOutcome

namespace Config

/-- What becomes of a row, given the rows that are of interest. -/
def readRow (c : Config) (keep : Row → Bool) (row : Row) : LineOutcome :=
  let tag := row.cell c.posColumn
  if tag ∉ c.configuredPos then .rejected row.line (.unknownPos tag) (some c.posColumn)
  else if keep row then .accepted row
  else .filtered

/-- What becomes of a line. -/
def readLine (c : Config) (keep : Row → Bool) (number : Nat) (line : List Char) : LineOutcome :=
  if number ∈ c.skipLines then .skipped
  else if c.layout.isBlank line then .blank
  else
    match c.layout.split number line with
    | .error error => .rejected number error none
    | .ok row => c.readRow keep row

/-- What becomes of each line of a source. -/
def readLines (c : Config) (keep : Row → Bool) (source : Source) : List LineOutcome :=
  source.numberedLines.map fun (number, line) => c.readLine keep number line

end Config

end Wordbook
