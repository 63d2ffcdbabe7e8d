import Wordbook.Command.Arguments
import Wordbook.Command.EnvFile
import Wordbook.Config.Record
import Wordbook.Json.Writer
import Wordbook.Lexeme.Schema
import Wordbook.Report

/-!
# The commands of the program

* `importFile`: a run on a file, with its report in JSON and its diagnostics;
* `parseCell`: the variants of a single cell;
* `checkConfig`: whether the creators of a configuration can be initialised;
* `validate`: the bundles of a report or of an array that are not valid;
* `program`: whatever the arguments of the program ask for.
-/

namespace Wordbook.Command

/-- The exit code of a command that has done what it was asked for. -/
def successCode : Nat := 0

/-- The variable that names the configuration where the command line does not. -/
def configVariable : String := "LEXLOAD_CONFIG"

/-- Why a file holds no text. -/
def notUtf8 : String := "stream did not contain valid UTF-8"

/-- The text of a file, which has to be UTF-8. -/
def textOf (file : FileResult) : Except String (List Char) := do
  match Text.readUtf8? (← file) with
  | some t => .ok t
  | none => .error notUtf8

/-- The configuration of a file. -/
def configOf (path : String) (file : FileResult) : Except ConfigError Config :=
  match textOf file with
  | .ok t => Config.ofText t
  | .error reason => .error (.unreadable path reason)

/-- The configuration that the command line or else a variable names. -/
def loadConfig (settings : EnvFile.Settings) (given : Option String) : Command Config := do
  let path? ← match given with
    | some path => pure (some path)
    | none => ExceptT.lift (EnvFile.lookup settings configVariable)
  match path? with
  | none => throw (.refused ConfigError.missing.message)
  | some path =>
    tell s!"⚙️  Config: {path}"
    attempt (Failure.ofError ConfigError.message (configOf path (← load path)))

def tellAll (lines : List String) : Command Unit := lines.forM tell

/-! ## Imports -/

/-- The number of diagnostics that are shown. -/
def shownDiagnostics : Nat := 10

/-- The number of invalid bundles that are shown. -/
def shownBundles : Nat := 5

/-- The number of violations that are shown of a bundle. -/
def shownViolations : Nat := 3

def statsLines (r : Report) : List String :=
  let s := r.stats
  [s!"   Run: {r.runId}", "   Encoding: " ++ r.encoding.getD "-",
   s!"   Lines: {s.linesRead} read, {s.skippedLines} skipped, {s.blankLines} blank",
   s!"   Rows: {s.rowsAccepted} accepted, {s.rowsRejected} rejected, " ++
     s!"{s.rowsFiltered} filtered, {s.rowsFailed} failed",
   "", s!"⚙️  Built: {s.bundles} bundles, {s.variants} variants"]

def diagnosticLines (ds : Diagnostics) : List String :=
  if ds.size = 0 then []
  else
    ["", s!"📋 Diagnostics ({ds.size}):"] ++
      (ds.entries.take shownDiagnostics).map (fun d => "   " ++ d.render) ++
      if shownDiagnostics < ds.size then [s!"   ... {ds.size - shownDiagnostics} more"] else []

def invalidBundleLines (bundles : List Bundle) (place : Nat) (messages : List String) :
    List String :=
  let line := (bundles[place]?.map Bundle.line).getD 0
  ["", s!"   Bundle {place} (line {line}):"] ++
    (messages.take shownViolations).map fun message => s!"     - {message}"

def validationLines (bundles : List Bundle) : List String :=
  let invalid := Bundle.invalid bundles
  ["", "✔️  Validation:"] ++
    if invalid.isEmpty then [s!"   ✅ All {bundles.length} bundles valid!"]
    else
      s!"   ❌ Invalid: {invalid.length}" ::
        (invalid.take shownBundles).flatMap fun (place, messages) =>
          invalidBundleLines bundles place messages

/-- The lines that tell what a run has come to. -/
def reportLines (r : Report) (validate : Bool) : List String :=
  statsLines r ++ diagnosticLines r.diagnostics ++
    if validate then validationLines r.bundles else []

/-- Stores the diagnostics of a run, if a file is named for them. -/
def storeDiagnostics (ds : Diagnostics) : Option String → Command Unit
  | none => return
  | some path => do
    store path (Text.writeUtf8 ds.csv.toList)
    tell s!"   💾 Diagnostics written to: {path}"

/-- Puts out a text, or stores it if a file is named for it. -/
def putOut (text : String) : Option String → Command Unit
  | none => put text
  | some path => do
    store path (Text.writeUtf8 text.toList)
    tell s!"💾 Output written to: {path}"

/-- A run on a file. Its diagnostics are stored even when it is aborted. -/
def importFile (codecs : Codecs) (settings : EnvFile.Settings) (input : String)
    (config output report encoding : Option String) (validate : Bool) : Command Nat := do
  tell s!"📄 Importing: {input}"
  let config ← loadConfig settings config
  let runId ← freshId
  let startedAt ← clock
  let start := { Importer.new codecs config with encoding := encoding }
  let file ← load input
  let (result, importer) ← attempt (Failure.ofFault (start.run (← clock) input file))
  storeDiagnostics importer.diagnostics report
  attempt (Failure.ofError ImportError.message result)
  let report := importer.report runId startedAt
  tellAll (reportLines report validate)
  putOut report.toJson.pretty output
  tellAll ["", "✨ Done!"]
  return successCode

/-! ## Single cells -/

/-- The first provider with a creator for a part of speech, and the creator. -/
def creatorFor (c : Config) (tag : String) : Option (ProviderConfig × CreatorConfig) :=
  c.providers.findSome? fun p => (p.creators.find? (·.tag == tag)).map fun creator => (p, creator)

/-- A creator with the style of its nouns overridden. Other grammars have none. -/
def withStyle (creator : CreatorConfig) : Option NounStyle → CreatorConfig
  | none => creator
  | some style =>
    match creator.grammar with
    | .noun _ => { creator with grammar := .noun style }
    | _ => creator

/-- Cells with a text in one of them, which has to be there. -/
def putCell (cells : List String) (column : Nat) (text : String) : Except Fault (List String) :=
  if column < cells.length then .ok (cells.set column text) else .error (.outsideRow column)

/-- The row of a single cell and its dialect cell. -/
def cellRow (c : Config) (creator : CreatorConfig) (cell : String) (dialects : Option String) :
    Except Fault Row := do
  let cells := List.replicate c.columnCount ""
  let cells ← putCell cells c.posColumn creator.tag
  let cells ← putCell cells creator.column cell
  let cells ← match dialects, creator.dialectColumn with
    | some text, some column => putCell cells column text
    | _, _ => pure cells
  return Row.padded 1 cells c.columnCount

/-- The lexemes of a single cell, and the diagnostics that they raise. -/
def cellLexemes (c : Config) (tag : String) (style : Option NounStyle) (cell : String)
    (dialects : Option String) : Except Failure (List (List Variant) × List Diagnostic) := do
  let some (provider, creator) := creatorFor c tag
    | throw (.refused (RowError.unknownPos tag).message)
  let creator := withStyle creator style
  let some paradigm := (Reference.ofConfig c.reference).paradigm? tag
    | throw (.refused (SetupError.noSlots tag).message)
  let initialised ← Failure.ofError SetupError.message (creator.build.initialise paradigm)
  let row ← Failure.ofFault (cellRow c creator cell dialects)
  let label := s!"{provider.language}/{tag}"
  let creation ← Failure.ofFault (initialised.createLexemes label provider.orthographyId row)
  let (created, ledger) := creation ⟨Importer.firstId, []⟩
  let lexemes ← Failure.ofError CellError.message (created.bind fun lexemes =>
    lexemes.mapM fun variants =>
      provider.toDialects.distribute variants row creator.dialectColumn)
  return (lexemes, ledger.diagnostics)

/-- The variants of a single cell, put out lexeme by lexeme. -/
def parseCell (settings : EnvFile.Settings) (tag cell : String) (style : Option NounStyle)
    (dialects config : Option String) : Command Nat := do
  let config ← loadConfig settings config
  let (lexemes, diagnostics) ← attempt (cellLexemes config tag style cell dialects)
  tellAll (diagnostics.map fun d => "   " ++ d.render)
  put (Json.ofList (Json.ofList Variant.toJson) lexemes).pretty
  return successCode

/-! ## Checks -/

/-- Whether the creators of a configuration can be initialised. -/
def checkConfig (codecs : Codecs) (settings : EnvFile.Settings) (config : Option String) :
    Command Nat := do
  let config ← loadConfig settings config
  let (result, _) := (Importer.new codecs config).initialise (← clock)
  attempt (Failure.ofError ImportError.message result)
  tellAll (config.providers.map fun p => s!"   {p.language}: {p.creators.length} creators")
  tell s!"✅ Config valid: {config.configuredPos.size} parts of speech"
  return successCode

/-- The bundles of a report or of an array. -/
def bundleValues : Json → Except String (List Json)
  | .array vs => .ok vs
  | .object ms =>
    match ms.lookup "bundles" with
    | some (.array vs) => .ok vs
    | _ => .error "object has no 'bundles' array"
  | _ => .error "expected a report or an array of bundles"

/-- The bundles in the text of a file. -/
def readBundles (t : List Char) : Except String (List Json) :=
  match Json.readStrict? t with
  | some v => bundleValues v
  | none => .error "the file does not hold JSON"

def invalidValueLines (place : Nat) (messages : List String) : List String :=
  ["", s!"❌ Bundle {place} invalid:"] ++
    (messages.take shownViolations).map fun message => s!"   - {message}"

/-- The bundles of a file that are not valid. The command is a success if there are none. -/
def validate (input : String) : Command Nat := do
  tell s!"✔️  Validating: {input}"
  let values ← attempt (Failure.ofError id ((textOf (← load input)).bind readBundles))
  let invalid := Bundle.invalidValues values
  tellAll ((invalid.take shownBundles).flatMap fun (place, messages) =>
    invalidValueLines place messages)
  tellAll ["", s!"📊 Results: {values.length - invalid.length} valid, {invalid.length} invalid"]
  return if invalid.isEmpty then successCode else refusedCode

/-- What the arguments of a command line ask for. -/
def invoke (codecs : Codecs) (settings : EnvFile.Settings) : Invocation → Command Nat
  | .importFile input config output report encoding validate =>
    importFile codecs settings input config output report encoding validate
  | .parseCell tag cell style dialects config => parseCell settings tag cell style dialects config
  | .checkConfig config => checkConfig codecs settings config
  | .validate input => validate input

/-- How the program is called. -/
def usage : String :=
  "Usage: [-v...] [--log-format pretty|compact|json] COMMAND\n\n" ++
  "import INPUT [-c CONFIG] [-o OUTPUT] [-r REPORT] [-e ENCODING] [--no-validate]\n" ++
  "parse-cell -p POS [-n genus-suffix|article-prefix] [-d DIALECTS] [-c CONFIG] CELL\n" ++
  "check-config [-c CONFIG]\n" ++
  "validate INPUT"

/-- The script of the program, with its exit code. -/
def program (codecs : Codecs) (arguments : List String) : Script Nat := do
  let settings ← EnvFile.settings
  match Invocation.read arguments with
  | .ok invocation => (invoke codecs settings invocation).toScript
  | .error .help => .put usage (.done successCode)
  | .error .wrong => .tell usage (.done misuseCode)

/-- The filter for log messages that belongs to a number of requests to tell more. -/
def logDirective (verbosity : Nat) : String :=
  let level := match verbosity with
    | 0 => "warn"
    | 1 => "info"
    | 2 => "debug"
    | _ => "trace"
  s!"warn,lexload={level}"

end Wordbook.Command
