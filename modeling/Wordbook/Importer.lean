import Wordbook.Import.Stats

/-!
# Import runs

An importer goes through one run: it is initialised, reads a source and builds
the rows of it.

```text
uninitialised -- initialise --> initialised -- read --> reading -- build --> done
      |                              |
      +---------- aborted <----------+
```

A step in the wrong state changes nothing. A step that fails aborts the run.
What is wrong with a row is no failure of a step, but a diagnostic.

* `Importer.step`: a step, with its result.
-/

namespace Wordbook

inductive ImportState where
  | uninitialised
  | initialised
  | reading
  | building
  | done
  | aborted
  deriving DecidableEq, Repr

namespace ImportState

def name : ImportState → String
  | uninitialised => "Uninitialized"
  | initialised => "Initialised"
  | reading => "Reading"
  | building => "Building"
  | done => "Done"
  | aborted => "Aborted"

/-- Whether a run in this state is over. -/
def isFinished (s : ImportState) : Bool := s == done || s == aborted

end ImportState

/-- Why a step fails. -/
inductive ImportError where
  | source (error : SourceError)
  | setup (error : SetupError)
  /-- A step is called in a state that it does not belong to. -/
  | wrongState (step : String) (expected actual : ImportState)
  deriving DecidableEq, Repr

def ImportError.message : ImportError → String
  | source error => s!"input error: {error.message}"
  | setup error => s!"initialisation error: {error.message}"
  | wrongState step expected actual =>
    s!"cannot {step} in state {actual.name} (expected {expected.name})"

/-- One run of an import. -/
structure Importer where
  config : Config
  reference : Reference
  codecs : Codecs
  /-- The encoding of the source, where it is not to be guessed. -/
  encoding : Option String
  /-- The rows that are of interest. -/
  keep : Row → Bool
  state : ImportState
  providers : List Provider
  /-- The id of the next variant. -/
  nextId : Int64
  /-- The rows that have been read and not yet been built. -/
  rows : List Row
  bundles : List Bundle
  diagnostics : Diagnostics
  stats : Stats
  /-- The path of the source, if it has one. -/
  source : Option String
  /-- The encoding that the source was read in. -/
  sourceEncoding : Option String
  finishedAt : Option String

/-- What a file holds, or why it cannot be read. -/
abbrev FileResult := Except String (List UInt8)

namespace Importer

/-- The id of the first variant of a run. -/
def firstId : Int64 := -1

/-- A run that has not begun, with the reference data of the configuration. -/
def new (codecs : Codecs) (config : Config) : Importer where
  config := config
  reference := Reference.ofConfig config.reference
  codecs := codecs
  encoding := none
  keep := fun _ => true
  state := .uninitialised
  providers := []
  nextId := firstId
  rows := []
  bundles := []
  diagnostics := ∅
  stats := .zero
  source := none
  sourceEncoding := none
  finishedAt := none

/-- The run, and what a step on it has come to. -/
abbrev Result := Except ImportError Unit × Importer

/-- Ends a run because of an error. -/
def abort (i : Importer) (now : String) (error : ImportError) : Result :=
  (.error error, { i with state := .aborted, finishedAt := some now })

/-- A step that belongs to a state. -/
def inState (i : Importer) (step : String) (expected : ImportState) (go : Importer → Result) :
    Result :=
  if i.state = expected then go i else (.error (.wrongState step expected i.state), i)

/-! ## Steps -/

/-- Sets up the providers. -/
def initialise (i : Importer) (now : String) : Result :=
  i.inState "initialise" .uninitialised fun i =>
    match i.config.resolve i.reference with
    | .ok providers => (.ok (), { i with providers := providers, state := .initialised })
    | .error error => i.abort now (.setup error)

/-- Takes in the lines of a source. -/
def accept (i : Importer) (source : Source) : Importer :=
  let outcomes := i.config.readLines i.keep source
  { i with
    state := .reading
    sourceEncoding := some source.encoding
    rows := i.rows ++ outcomes.filterMap (·.row?)
    diagnostics := i.diagnostics.append ⟨outcomes.filterMap (·.diagnostic?)⟩
    stats := .ofLines outcomes }

/-- Reads a source that may not be there. -/
def readSource (i : Importer) (now : String) (bytes : Except SourceError (List UInt8)) : Result :=
  match bytes.bind fun bytes => Source.decode i.codecs bytes i.encoding with
  | .ok source => (.ok (), i.accept source)
  | .error error => i.abort now (.source error)

/-- Reads a file. -/
def read (i : Importer) (now path : String) (file : FileResult) : Result :=
  i.inState "read" .initialised fun i =>
    readSource { i with source := some path } now (file.mapError (.unreadable path))

/-- Reads a source that is in memory. -/
def readBytes (i : Importer) (now : String) (bytes : List UInt8) : Result :=
  i.inState "read" .initialised fun i => i.readSource now (.ok bytes)

/-- Takes in what the rows have come to. -/
def finish (i : Importer) (now : String) (results : List RowResult) : Importer :=
  { i with
    state := .done
    nextId := (results.getLast?.map (·.nextId)).getD i.nextId
    bundles := i.bundles ++ results.flatMap fun r => r.bundles.getD []
    diagnostics := i.diagnostics.append ⟨results.flatMap (·.diagnostics)⟩
    stats := i.stats.addRows results
    finishedAt := some now }

/-- Builds the rows that have been read. -/
def build (i : Importer) (now : String) : Except Fault Result :=
  if i.state = .reading then do
    let results ← buildRows i.providers i.config.posColumn i.rows i.nextId
    return (.ok (), finish { i with state := .building, rows := [] } now results)
  else .ok (.error (.wrongState "build" .reading i.state), i)

/-- Initialises, reads a file and builds its rows. -/
def run (i : Importer) (now path : String) (file : FileResult) : Except Fault Result :=
  match i.initialise now with
  | (.error error, i) => .ok (.error error, i)
  | (.ok _, i) =>
    match i.read now path file with
    | (.error error, i) => .ok (.error error, i)
    | (.ok _, i) => i.build now

inductive Step where
  | initialise
  | read (path : String) (file : FileResult)
  | readBytes (bytes : List UInt8)
  | build
  | run (path : String) (file : FileResult)

/-- A step, taken at some time. -/
def step (i : Importer) (now : String) : Step → Except Fault Result
  | .initialise => .ok (i.initialise now)
  | .read path file => .ok (i.read now path file)
  | .readBytes bytes => .ok (i.readBytes now bytes)
  | .build => i.build now
  | .run path file => i.run now path file

end Importer

end Wordbook
