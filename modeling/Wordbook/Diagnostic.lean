import Wordbook.Csv
import Wordbook.Order.SortedMap

/-!
# Diagnostics

What an import has to say about single lines, in the order in which it was
raised. Each diagnostic has a severity, a context such as `reader` or the
language and part of speech of a creator, and a line and perhaps a column.

* `Diagnostics.byContext`: the diagnostics of each context;
* `Diagnostics.csv`: all of them as comma-separated values, under a head line.
-/

namespace Wordbook

inductive Severity where
  | info
  | warning
  | error
  deriving DecidableEq, Repr

def Severity.name : Severity → String
  | info => "info"
  | warning => "warning"
  | error => "error"

structure Diagnostic where
  severity : Severity
  message : String
  context : String
  line : Nat
  column : Option Nat
  deriving DecidableEq, Repr

/-- A diagnostic in one line, as it is shown to the user. -/
def Diagnostic.render (d : Diagnostic) : String :=
  let place := match d.column with
    | some column => s!"{d.context} line {d.line}, column {column}"
    | none => s!"{d.context} line {d.line}"
  s!"[{d.severity.name}] {place}: {d.message}"

/-- The diagnostics of a run, in the order in which they were raised. -/
structure Diagnostics where
  entries : List Diagnostic
  deriving DecidableEq, Repr

namespace Diagnostics

instance : EmptyCollection Diagnostics := ⟨⟨[]⟩⟩

def push (ds : Diagnostics) (d : Diagnostic) : Diagnostics := ⟨ds.entries ++ [d]⟩

def append (ds es : Diagnostics) : Diagnostics := ⟨ds.entries ++ es.entries⟩

def size (ds : Diagnostics) : Nat := ds.entries.length

def count (ds : Diagnostics) (severity : Severity) : Nat :=
  ds.entries.countP (·.severity == severity)

def hasErrors (ds : Diagnostics) : Bool := ds.count .error > 0

def forLine (ds : Diagnostics) (line : Nat) : List Diagnostic := ds.entries.filter (·.line == line)

/-- The diagnostics of each context, the contexts in ascending order. -/
def byContext (ds : Diagnostics) : SortedMap String (List Diagnostic) :=
  ds.entries.foldl (fun m d => m.insert d.context ((m.get? d.context).getD [] ++ [d])) ∅

/-- The columns of the diagnostics in comma-separated values. -/
def csvHead : List String := ["severity", "line", "column", "context", "message"]

def csvFields (d : Diagnostic) : List String :=
  [d.severity.name, toString d.line, (d.column.map toString).getD "", d.context, d.message]

/-- The diagnostics as comma-separated values, a record each. -/
def csv (ds : Diagnostics) : String :=
  let records := (csvHead :: ds.entries.map csvFields).map fun fields =>
    Csv.record (fields.map String.toList)
  String.ofList records.flatten

end Diagnostics

end Wordbook
