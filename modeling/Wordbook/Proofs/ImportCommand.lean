import Wordbook.Proofs.Encoding
import Wordbook.Proofs.Stored
import Wordbook.Proofs.Validation

/-!
# What an import leaves behind

An import ends in one of three ways. Without a configuration nothing is done.
A run that is aborted leaves its diagnostics, if a file is named for them. One
that is done leaves its diagnostics and its report. What is wrong with rows and
what the schema does not allow makes no difference to that, and neither do the
time, the id of the run or whether its bundles are validated.

* `Importer.Setup.exists_run_timed`: a run at any time;
* `Command.ImportEnd`: the end of an import, with what it leaves;
* `Command.import_outcome`: how an import ends.
-/

namespace Wordbook

namespace Importer

/-- A run that has ended at some time. -/
def endedAt (i : Importer) (now : String) : Importer := { i with finishedAt := some now }

theorem readSource_of_error {i : Importer} {now : String}
    {bytes : Except SourceError (List UInt8)} {e : SourceError}
    (h : bytes.bind (Source.decode i.codecs · i.encoding) = .error e) :
    i.readSource now bytes = i.abort now (.source e) := by
  rw [readSource, h]

namespace Setup

variable {s : Setup} {path : String} {file : FileResult}

theorem run_of_error {e : SetupError} (h : s.config.resolve s.reference = .error e)
    (now path : String) (file : FileResult) :
    s.importer.run now path file = .ok (s.importer.abort now (.setup e)) := by
  rw [Importer.run, initialise_of_error h]
  rfl

/-- A run on a file that cannot be read, or not be decoded. -/
theorem run_of_sourceError {e : SourceError}
    (hresolve : s.config.resolve s.reference = .ok s.providers)
    (h : (file.mapError (.unreadable path)).bind (Source.decode s.codecs · s.encoding) = .error e)
    (now : String) :
    s.importer.run now path file = .ok ((s.initialised (some path)).abort now (.source e)) := by
  have hread : (s.initialised none).read now path file =
    (s.initialised (some path)).abort now (.source e) := readSource_of_error h
  rw [Importer.run, initialise_of_ok hresolve]
  dsimp only
  rw [hread]
  rfl

/-- A run on a file is done if it can be set up and the file can be read and decoded. The time
makes no difference to it, but is noted. -/
theorem exists_run_timed (s : Setup) (path : String) (file : FileResult) :
    ∃ (result : Except ImportError Unit) (i : Importer),
      (∀ now, s.importer.run now path file = .ok (result, i.endedAt now)) ∧
      (result = .ok () ↔ (∀ now, (s.importer.initialise now).1 = .ok ()) ∧
        (∃ bytes, file = .ok bytes) ∧ ∀ label ∈ s.encoding, s.codecs.Knows label) ∧
      (result = .ok () → i.state = .done) := by
  cases hresolve : s.config.resolve s.reference with
  | error e =>
    refine ⟨.error (.setup e), { s.importer with state := .aborted },
      fun now => run_of_error hresolve now path file, iff_of_false nofun fun h => ?_, nofun⟩
    have hfails := h.1 ""
    rw [initialise_of_error hresolve] at hfails
    cases hfails
  | ok providers =>
    obtain rfl := providers_eq hresolve
    cases hsource : (file.mapError (.unreadable path)).bind
      (Source.decode s.codecs · s.encoding) with
    | error e =>
      refine ⟨.error (.source e), { s.initialised (some path) with state := .aborted },
        fun now => run_of_sourceError hresolve hsource now, iff_of_false nofun ?_, nofun⟩
      rintro ⟨-, ⟨bytes, rfl⟩, hknown⟩
      obtain ⟨source, hdecode⟩ := Source.exists_decode_iff.2 hknown
      cases hsource.symm.trans hdecode
    | ok source =>
      obtain ⟨bytes, hbytes, hdecode⟩ := bind_eq_ok_iff.1 hsource
      obtain rfl := mapError_eq_ok_iff.1 hbytes
      refine ⟨.ok (), finish { (s.initialised (some path)).accept source with
          state := .building, rows := [] } "" (s.results source),
        fun now => run_eq_finish hresolve hdecode now path,
        iff_of_true rfl ⟨fun now => ?_, ⟨bytes, rfl⟩, Source.exists_decode_iff.1 ⟨source, hdecode⟩⟩,
        fun _ => rfl⟩
      rw [initialise_of_ok hresolve]

end Setup

end Importer

namespace Command

variable {codecs : Codecs} {around : Surroundings} {settings : EnvFile.Settings} {s s' : Session}
  {c : Config} {config output report encoding : Option String} {result : Except ImportError Unit}
  {i : Importer} {id time : String}

/-! ## Steps of an import -/

/-- The configuration that is named can be loaded, and has passed its check. -/
def IsConfigured (around : Surroundings) (settings : EnvFile.Settings) (given : Option String)
    (folder : Folder) (c : Config) : Prop :=
  ∃ path, configPath? around settings given = some path ∧ configOf path (folder.load path) = .ok c

theorem IsConfigured.unique {folder : Folder} {c' : Config}
    (h : IsConfigured around settings config folder c)
    (h' : IsConfigured around settings config folder c') : c' = c := by
  obtain ⟨path, hpath, hc⟩ := h
  obtain ⟨path', hpath', hc'⟩ := h'
  obtain rfl := Option.some.inj (hpath.symm.trans hpath')
  exact Except.ok.inj (hc'.symm.trans hc)

theorem exists_runIn_loadConfig (h : IsConfigured around settings config s.folder c) :
    ∃ line, (loadConfig settings config).runIn around s =
      (.ok c, { s with told := s.told ++ [line] }) := by
  obtain ⟨path, hpath, hc⟩ := h
  refine ⟨s!"⚙️  Config: {path}", ?_⟩
  rw [runIn_loadConfig_eq, hpath]
  dsimp only
  rw [hc]
  rfl

theorem exists_runIn_storeDiagnostics (around : Surroundings)
    (h : ∀ path ∈ report, s.folder.Writable path) (ds : Diagnostics) :
    ∃ s', (storeDiagnostics ds report).runIn around s = (.ok (), s') ∧ s'.output = s.output ∧
      s.folder.StoresAt report (some ds.csv) s'.folder := by
  cases report with
  | none => exact ⟨s, rfl, rfl, rfl⟩
  | some path =>
    obtain ⟨folder, hfolder⟩ := h path rfl (Text.writeUtf8 ds.csv.toList)
    let told := s.told ++ [s!"   💾 Diagnostics written to: {path}"]
    refine ⟨{ s with folder := folder, told := told }, ?_, rfl, hfolder⟩
    rw [storeDiagnostics, runIn_bind, runIn_store, hfolder]
    rfl

theorem exists_runIn_putOut (around : Surroundings)
    (h : ∀ path ∈ output, s.folder.Writable path) (text : String) :
    ∃ s', (putOut text output).runIn around s = (.ok (), s') ∧
      s'.output = s.output ++ (if output.isNone then [text] else []) ∧
      s.folder.StoresAt output (some text) s'.folder := by
  cases output with
  | none => exact ⟨_, runIn_put .., rfl, rfl⟩
  | some path =>
    obtain ⟨folder, hfolder⟩ := h path rfl (Text.writeUtf8 text.toList)
    let told := s.told ++ [s!"💾 Output written to: {path}"]
    refine ⟨{ s with folder := folder, told := told }, ?_, (List.append_nil _).symm, hfolder⟩
    rw [putOut, runIn_bind, runIn_store, hfolder]
    rfl

/-! ## Ends of imports -/

/-- What an import comes to, apart from its times and the id of its run. -/
inductive ImportEnd where
  /-- There is no configuration, and so no run. -/
  | unconfigured
  | aborted (i : Importer)
  | done (i : Importer)

namespace ImportEnd

def ofRun : Except ImportError Unit → Importer → ImportEnd
  | .ok _, i => done i
  | .error _, i => aborted i

def code : ImportEnd → Nat
  | done _ => successCode
  | unconfigured | aborted _ => refusedCode

def diagnostics? : ImportEnd → Option Diagnostics
  | unconfigured => none
  | aborted i | done i => some i.diagnostics

/-- The report of a run that is done, with an id and a time. -/
def report? (id time : String) : ImportEnd → Option Report
  | done i => some ((i.endedAt time).report id time)
  | unconfigured | aborted _ => none

/-- The text that the diagnostics are stored as. -/
def csv? (e : ImportEnd) : Option String := e.diagnostics?.map Diagnostics.csv

/-- The text that the report is put out as. -/
def json? (e : ImportEnd) (id time : String) : Option String :=
  (e.report? id time).map (·.toJson.pretty)

theorem code_ofRun_eq_iff : (ofRun result i).code = successCode ↔ result = .ok () := by
  cases result with
  | error e => exact iff_of_false (by decide : refusedCode ≠ successCode) nofun
  | ok => exact iff_of_true rfl rfl

theorem diagnostics?_ofRun : (ofRun result i).diagnostics? = some i.diagnostics := by
  cases result <;> rfl

theorem isSome_report?_iff {e : ImportEnd} :
    (e.report? id time).isSome ↔ e.code = successCode := by
  cases e with
  | done i => exact iff_of_true rfl rfl
  | unconfigured | aborted => exact iff_of_false nofun (by decide : refusedCode ≠ successCode)

theorem state_report?_ofRun (h : result = .ok () → i.state = .done) :
    ∀ r ∈ (ofRun result i).report? id time, r.state = .done := by
  cases result with
  | error e => exact nofun
  | ok =>
    rintro r ⟨⟩
    exact h rfl

/-- What an import leaves in a session. -/
structure Leaves (e : ImportEnd) (output report : Option String) (id time : String)
    (s s' : Session) : Prop where
  /-- The diagnostics are stored, then the report, and nothing else. -/
  files : ∃ folder, s.folder.StoresAt report e.csv? folder ∧
    folder.StoresAt output (e.json? id time) s'.folder
  csv : ∀ path ∈ report, ∀ csv ∈ e.csv?, s'.folder.Holds path (Text.writeUtf8 csv.toList)
  json : ∀ path ∈ output, ∀ json ∈ e.json? id time,
    s'.folder.Holds path (Text.writeUtf8 json.toList)
  /-- The report is put out if no file is named for it, and nothing else is. -/
  output_eq : s'.output = s.output ++ if output.isNone then (e.json? id time).toList else []

end ImportEnd

/-- The files that an import may store can be stored, and are not the same. -/
structure CanStore (output report : Option String) (folder : Folder) : Prop where
  writable_output : ∀ path ∈ output, folder.Writable path
  writable_report : ∀ path ∈ report, folder.Writable path
  apart : ∀ p ∈ report, ∀ q ∈ output, folder.Apart p q

theorem CanStore.leaves {e : ImportEnd} {folder : Folder} (h : CanStore output report s.folder)
    (hcsv : s.folder.StoresAt report e.csv? folder)
    (hjson : folder.StoresAt output (e.json? id time) s'.folder)
    (houtput : s'.output = s.output ++ if output.isNone then (e.json? id time).toList else []) :
    e.Leaves output report id time s s' :=
  ⟨⟨folder, hcsv, hjson⟩, hcsv.holds_after hjson h.writable_output h.apart, hjson.holds, houtput⟩

/-- An import without a configuration. -/
theorem exists_runIn_of_not_configured (codecs : Codecs) (around : Surroundings)
    (hcan : CanStore output report s.folder)
    (h : ¬∃ c, IsConfigured around settings config s.folder c) (input : String)
    (encoding : Option String) (validated : Bool) :
    ∃ s', (importFile codecs settings input config output report encoding validated).toScript.runIn
        around s = (ImportEnd.unconfigured.code, s') ∧
      ImportEnd.unconfigured.Leaves output report around.freshId around.clock s s' := by
  have hnothing (told : List String) : ImportEnd.unconfigured.Leaves output report around.freshId
      around.clock s { s with told := told } :=
    hcan.leaves Folder.storesAt_none_right Folder.storesAt_none_right (by simp [ImportEnd.json?,
      ImportEnd.report?])
  rw [runIn_toScript, importFile, runIn_bind_of_ok (runIn_tell ..), runIn_bind, runIn_loadConfig_eq]
  cases hpath : configPath? around settings config with
  | none => exact ⟨_, rfl, hnothing _⟩
  | some path =>
    cases hc : configOf path (s.folder.load path) with
    | error e =>
      dsimp only
      rw [hc]
      exact ⟨_, rfl, hnothing _⟩
    | ok c => exact absurd ⟨c, path, hpath, hc⟩ h

/-- An import that comes to a run leaves the diagnostics of it in any case. -/
theorem exists_runIn_of_run (around : Surroundings) {input : String}
    (hcan : CanStore output report s.folder)
    (hconfig : IsConfigured around settings config s.folder c)
    (hrun : (Importer.Setup.ofConfig codecs c encoding).importer.run around.clock input
      (s.folder.load input) = .ok (result, i.endedAt around.clock)) (validated : Bool) :
    ∃ s', (importFile codecs settings input config output report encoding validated).toScript.runIn
        around s = ((ImportEnd.ofRun result i).code, s') ∧
      (ImportEnd.ofRun result i).Leaves output report around.freshId around.clock s s' := by
  obtain ⟨line, hload⟩ := exists_runIn_loadConfig
    (s := { s with told := s.told ++ [s!"📄 Importing: {input}"] }) hconfig
  have hattempt (s₁ : Session) : (attempt (Failure.ofFault (Importer.run
      { Importer.new codecs c with encoding := encoding } around.clock input
        (s.folder.load input)))).runIn around s₁ = (.ok (result, i.endedAt around.clock), s₁) :=
    congrArg (fun r => (Failure.ofFault r, s₁)) hrun
  rw [runIn_toScript, importFile, runIn_bind_of_ok (runIn_tell ..), runIn_bind_of_ok hload,
    runIn_bind_of_ok (runIn_freshId _), runIn_bind_of_ok (runIn_clock _)]
  dsimp only
  rw [runIn_bind_of_ok (runIn_load ..), runIn_bind_of_ok (runIn_clock _),
    runIn_bind_of_ok (hattempt _)]
  dsimp only
  obtain ⟨s₁, hstore, houtput₁, hcsv⟩ := exists_runIn_storeDiagnostics around
    (s := { s with told := s.told ++ [s!"📄 Importing: {input}"] ++ [line] }) hcan.writable_report
    (i.endedAt around.clock).diagnostics
  rw [runIn_bind_of_ok hstore]
  cases result with
  | error e =>
    rw [runIn_bind, runIn_attempt]
    refine ⟨_, rfl, hcan.leaves hcsv Folder.storesAt_none_right ?_⟩
    simpa [ImportEnd.json?, ImportEnd.report?, ImportEnd.ofRun] using houtput₁
  | ok =>
    have hwritable : ∀ path ∈ output, s₁.folder.Writable path :=
      fun path hpath => hcsv.writable (hcan.writable_output path hpath)
    obtain ⟨s₂, hput, houtput₂, hjson⟩ := exists_runIn_putOut around (s := { s₁ with
      told := s₁.told ++ reportLines ((i.endedAt around.clock).report around.freshId around.clock)
        validated }) hwritable
      ((i.endedAt around.clock).report around.freshId around.clock).toJson.pretty
    rw [runIn_bind_of_ok (a := ()) (by rfl), runIn_bind_of_ok (runIn_tellAll _ _),
      runIn_bind_of_ok hput, runIn_bind_of_ok (runIn_tellAll _ _), runIn_pure]
    refine ⟨_, rfl, hcan.leaves hcsv hjson ?_⟩
    rw [houtput₂, houtput₁]
    rfl

/-- How an import ends hangs on its configuration, its source and the label of the encoding, and
neither on what is wrong with rows nor on the schema. -/
theorem import_outcome (codecs : Codecs) (around : Surroundings) (settings : EnvFile.Settings)
    (hcan : CanStore output report s.folder) (input : String) (config encoding : Option String) :
    ∃ e : ImportEnd,
      -- It is a success if nothing stands in the way of a run.
      (e.code = successCode ↔ ∃ c, IsConfigured around settings config s.folder c ∧
        (∀ now, ((Importer.Setup.ofConfig codecs c encoding).importer.initialise now).1 = .ok ()) ∧
        (∃ bytes, s.folder.load input = .ok bytes) ∧ ∀ label ∈ encoding, codecs.Knows label) ∧
      -- There is a report of a success, and of nothing else.
      (∀ id time, ((e.report? id time).isSome ↔ e.code = successCode) ∧
        ∀ r ∈ e.report? id time, r.state = .done) ∧
      -- There are diagnostics if there is a configuration. They are those of the run.
      (e.diagnostics?.isSome ↔ ∃ c, IsConfigured around settings config s.folder c) ∧
      (∀ c, IsConfigured around settings config s.folder c → ∃ result i, e = .ofRun result i ∧
        ∀ now, (Importer.Setup.ofConfig codecs c encoding).importer.run now input
          (s.folder.load input) = .ok (result, i.endedAt now)) ∧
      -- So it ends at any time, with any id, and whether its bundles are validated or not.
      ∀ time id validated, ∃ s',
        (importFile codecs settings input config output report encoding validated).toScript.runIn
          { around with clock := time, freshId := id } s = (e.code, s') ∧
        e.Leaves output report id time s s' := by
  by_cases hconfig : ∃ c, IsConfigured around settings config s.folder c
  · obtain ⟨c, hc⟩ := hconfig
    obtain ⟨result, i, hrun, hok, hdone⟩ :=
      (Importer.Setup.ofConfig codecs c encoding).exists_run_timed input (s.folder.load input)
    refine ⟨.ofRun result i, ?_, fun id time => ⟨ImportEnd.isSome_report?_iff,
      ImportEnd.state_report?_ofRun hdone⟩, ?_, ?_, fun time id validated =>
        exists_runIn_of_run { around with clock := time, freshId := id } hcan hc
          (hrun time) validated⟩
    · rw [ImportEnd.code_ofRun_eq_iff, hok]
      constructor
      · exact fun h => ⟨c, hc, h⟩
      · rintro ⟨c', hc', h⟩
        rwa [hc.unique hc'] at h
    · rw [ImportEnd.diagnostics?_ofRun]
      exact iff_of_true rfl ⟨c, hc⟩
    · intro c' hc'
      rw [hc.unique hc']
      exact ⟨result, i, rfl, hrun⟩
  · refine ⟨.unconfigured, iff_of_false (by decide : refusedCode ≠ successCode) ?_,
      fun id time => ⟨ImportEnd.isSome_report?_iff, nofun⟩, iff_of_false nofun hconfig,
      fun c hc => absurd ⟨c, hc⟩ hconfig, fun time id validated =>
        exists_runIn_of_not_configured codecs { around with clock := time, freshId := id } hcan
          hconfig input encoding validated⟩
    rintro ⟨c, hc, -⟩
    exact hconfig ⟨c, hc⟩

theorem canStore_verbSession : CanStore (some "r.json") (some "errors.csv") verbSession.folder where
  writable_output := by
    rintro path ⟨⟩ bytes
    exact ⟨_, rfl⟩
  writable_report := by
    rintro path ⟨⟩ bytes
    exact ⟨_, rfl⟩
  apart := by
    rintro p ⟨⟩ q ⟨⟩ key hp hq
    have hkey : key = "errors.csv" := Folder.Keeps.eq ⟨by decide, [], "errors.csv", rfl, rfl⟩ hp
    have hkey' : key = "r.json" := Folder.Keeps.eq ⟨by decide, [], "r.json", rfl, rfl⟩ hq
    exact absurd (hkey.symm.trans hkey') (by decide)

theorem not_knows_sampleCodecs : ¬Importer.sampleCodecs.Knows "utf-7" := by
  rintro (hplain | ⟨decoder, hdecoder⟩)
  · exact absurd hplain (by decide)
  · nomatch (show none = some decoder from hdecoder)

/-- An import is a success although one of its bundles is not allowed, but it is none with a label
that is not known. -/
theorem import_outcome_bar :
    (∃ i, Bundle.invalid i.bundles ≠ [] ∧ ∀ time id validated, ∃ s',
      (importFile Importer.sampleCodecs ∅ "w.csv" (some "c.json") (some "r.json")
        (some "errors.csv") none validated).toScript.runIn ⟨∅, time, id⟩ verbSession =
          (successCode, s') ∧
      (ImportEnd.done i).Leaves (some "r.json") (some "errors.csv") id time verbSession s') ∧
    ∃ e : ImportEnd, e.code ≠ successCode ∧ e.diagnostics?.isSome ∧ ∀ time id validated, ∃ s',
      (importFile Importer.sampleCodecs ∅ "w.csv" (some "c.json") (some "r.json")
        (some "errors.csv") (some "utf-7") validated).toScript.runIn ⟨∅, time, id⟩ verbSession =
          (e.code, s') ∧
      e.Leaves (some "r.json") (some "errors.csv") id time verbSession s' := by
  have hload : verbSession.folder.load "c.json" = .ok (Text.writeUtf8 verbText) := by
    decide +kernel
  have hconfig : IsConfigured ⟨∅, "", ""⟩ ∅ (some "c.json") verbSession.folder
      (Importer.Setup.sample .verb).config :=
    ⟨"c.json", rfl, by rw [hload, configOf_writeUtf8 ofText_verbText]⟩
  constructor
  · obtain ⟨j, hrun, hinvalid, -⟩ := exists_run_verbSource
    obtain ⟨e, -, -, -, hruns, hleaves⟩ := import_outcome Importer.sampleCodecs ⟨∅, "", ""⟩ ∅
      canStore_verbSession "w.csv" (some "c.json") none
    obtain ⟨result, i, rfl, htimed⟩ := hruns _ hconfig
    obtain ⟨rfl, rfl⟩ := Prod.mk.inj (Except.ok.inj (hrun.symm.trans (htimed "")))
    refine ⟨i, ?_, hleaves⟩
    rw [show i.bundles = (i.endedAt "").bundles from rfl, hinvalid]
    exact List.cons_ne_nil _ _
  · obtain ⟨e, hcode, -, hdiagnostics, -, hleaves⟩ := import_outcome Importer.sampleCodecs
      ⟨∅, "", ""⟩ ∅ canStore_verbSession "w.csv" (some "c.json") (some "utf-7")
    refine ⟨e, fun h => ?_, hdiagnostics.2 ⟨_, hconfig⟩, hleaves⟩
    obtain ⟨c, -, -, -, hknown⟩ := hcode.1 h
    exact not_knows_sampleCodecs (hknown "utf-7" rfl)

end Command

end Wordbook
