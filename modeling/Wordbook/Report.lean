import Wordbook.Importer
import Wordbook.Lexeme.Record

/-!
# Reports

All that a run has come to, as it is handed on for storing.
-/

namespace Wordbook

structure Report where
  runId : String
  startedAt : String
  finishedAt : Option String
  source : Option String
  encoding : Option String
  state : ImportState
  stats : Stats
  bundles : List Bundle
  diagnostics : Diagnostics

/-- The report of a run, which has an id and has started at some time. -/
def Importer.report (i : Importer) (runId startedAt : String) : Report where
  runId := runId
  startedAt := startedAt
  finishedAt := i.finishedAt
  source := i.source
  encoding := i.sourceEncoding
  state := i.state
  stats := i.stats
  bundles := i.bundles
  diagnostics := i.diagnostics

namespace Report

def isSuccess (r : Report) : Bool := r.state == .done

def errorCount (r : Report) : Nat := r.diagnostics.count .error

end Report

open Json

/-- The name of a state in a report. -/
def ImportState.key : ImportState → String
  | uninitialised => "uninitialized"
  | initialised => "initialised"
  | reading => "reading"
  | building => "building"
  | done => "done"
  | aborted => "aborted"

def Stats.toJson (s : Stats) : Json :=
  .object [("linesRead", ofCount s.linesRead), ("blankLines", ofCount s.blankLines),
    ("skippedLines", ofCount s.skippedLines), ("rowsAccepted", ofCount s.rowsAccepted),
    ("rowsRejected", ofCount s.rowsRejected), ("rowsFiltered", ofCount s.rowsFiltered),
    ("rowsFailed", ofCount s.rowsFailed), ("bundles", ofCount s.bundles),
    ("variants", ofCount s.variants)]

def Report.toJson (r : Report) : Json :=
  .object [("runId", .string r.runId), ("startedAt", .string r.startedAt),
    ("finishedAt", ofOption .string r.finishedAt), ("source", ofOption .string r.source),
    ("encoding", ofOption .string r.encoding), ("state", .string r.state.key),
    ("stats", r.stats.toJson), ("bundles", ofList Bundle.toJson r.bundles),
    ("diagnostics", ofList Diagnostic.toJson r.diagnostics.entries)]

end Wordbook
