import Wordbook.Proofs.Document
import Wordbook.Proofs.Encoding
import Wordbook.Proofs.Faultless
import Wordbook.Proofs.Folder
import Wordbook.Proofs.Report
import Wordbook.Proofs.ValidRun

/-!
# The validation of stored reports

The bundles of a run are validated when the run is done, and again when its
report is read from a file. Both find the same bundles invalid, for the same
reasons.

* `Command.runIn_importFile_eq_ok`: what an import that succeeds has done;
* `Command.runIn_validate`: what is told of the bundles of a file;
* `Command.ValidatesAs`: a text that is validated as some bundles are;
* `Command.validates_as_imported`: the report that an import has stored.
-/

namespace Wordbook

open Json

namespace Bundle

/-- The bundles that the document does not allow are listed, each with all that it says. -/
theorem mem_invalid_iff_closedSchema {bundles : List Bundle} {place : Nat}
    {messages : List String} : (place, messages) ∈ invalid bundles ↔
      ∃ b, bundles[place]? = some b ∧ closedSchema.allows b.toJson = false ∧
        messages = closedSchema.messages b.toJson := by
  have hallows (b : Bundle) :
      closedSchema.allows b.toJson = false ↔ closedSchema.messages b.toJson ≠ [] := by
    rw [Schema.Closed.allows, Schema.Closed.messages, ne_eq, List.map_eq_nil_iff,
      ← List.isEmpty_iff, Bool.not_eq_true]
  rw [mem_invalid_iff]
  simp only [hallows, messages_closedSchema]
  constructor
  · rintro ⟨hne, b, hb, rfl⟩
    exact ⟨b, hb, hne, rfl⟩
  · rintro ⟨b, hb, hne, rfl⟩
    exact ⟨hne, b, hb, rfl⟩

theorem length_invalidValues_le (values : List Json) :
    (invalidValues values).length ≤ values.length := by
  refine (List.length_filter_le ..).trans ?_
  rw [List.length_map, List.length_zipIdx]

end Bundle

/-- The set-up of a run with all that a configuration brings along. -/
def Importer.Setup.ofConfig (codecs : Codecs) (c : Config) (encoding : Option String) :
    Importer.Setup :=
  ⟨c, Reference.ofConfig c.reference, codecs, encoding, fun _ => true, Importer.firstId⟩

namespace Command

variable {codecs : Codecs} {around : Surroundings} {s s' : Session}

/-! ## Imports that succeed -/

/-- The path of the configuration that the command line or else a variable names. -/
def configPath? (around : Surroundings) (settings : EnvFile.Settings) (given : Option String) :
    Option String :=
  given <|> around.environment.get? configVariable <|> settings.get? configVariable

/-- A configuration is read from the file that is named, and no file is changed. -/
theorem runIn_loadConfig_eq (settings : EnvFile.Settings) (given : Option String) (s : Session) :
    (loadConfig settings given).runIn around s =
      match configPath? around settings given with
      | none => (.error (.refused ConfigError.missing.message), s)
      | some path => (Failure.ofError ConfigError.message (configOf path (s.folder.load path)),
          { s with told := s.told ++ [s!"⚙️  Config: {path}"] }) := by
  cases given with
  | some path => rfl
  | none =>
    have hlookup :
        Command.runIn around (ExceptT.lift (EnvFile.lookup settings configVariable)) s =
          (.ok (configPath? around settings none), s) := rfl
    rw [loadConfig, runIn_bind, hlookup]
    dsimp only
    cases configPath? around settings none <;> rfl

theorem runIn_loadConfig_eq_ok {settings : EnvFile.Settings} {given : Option String} {c : Config}
    (h : (loadConfig settings given).runIn around s = (.ok c, s')) :
    (∃ path, configPath? around settings given = some path ∧
      configOf path (s.folder.load path) = .ok c) ∧ s'.folder = s.folder := by
  rw [runIn_loadConfig_eq] at h
  cases hpath : configPath? around settings given with
  | none =>
    rw [hpath] at h
    cases (Prod.mk.inj h).1
  | some path =>
    rw [hpath] at h
    obtain ⟨hconfig, rfl⟩ := Prod.mk.inj h
    exact ⟨⟨path, rfl, mapError_eq_ok_iff.1 hconfig⟩, rfl⟩

/-- An import that succeeds has run on a file and stored its report. -/
theorem runIn_importFile_eq_ok {settings : EnvFile.Settings} {input output : String}
    {config report encoding : Option String} {validated : Bool}
    (h : (importFile codecs settings input config (some output) report encoding validated).runIn
      around s = (.ok successCode, s')) :
    ∃ c i, (∃ path, configPath? around settings config = some path ∧
        configOf path (s.folder.load path) = .ok c) ∧
      (Importer.Setup.ofConfig codecs c encoding).importer.run around.clock input
        (s.folder.load input) = .ok (.ok (), i) ∧
      ∃ folder : Folder, folder.store output (Text.writeUtf8
        (i.report around.freshId around.clock).toJson.pretty.toList) = .ok s'.folder := by
  rw [importFile] at h
  obtain ⟨_, s₁, htell, h⟩ := runIn_bind_eq_ok_iff.1 h
  obtain ⟨c, s₂, hconfig, h⟩ := runIn_bind_eq_ok_iff.1 h
  obtain ⟨runId, s₃, hid, h⟩ := runIn_bind_eq_ok_iff.1 h
  obtain ⟨startedAt, s₄, hclock, h⟩ := runIn_bind_eq_ok_iff.1 h
  obtain ⟨file, s₅, hfile, h⟩ := runIn_bind_eq_ok_iff.1 h
  obtain ⟨now, s₆, hnow, h⟩ := runIn_bind_eq_ok_iff.1 h
  obtain ⟨⟨result, i⟩, s₇, hrun, h⟩ := runIn_bind_eq_ok_iff.1 h
  obtain ⟨_, s₈, -, h⟩ := runIn_bind_eq_ok_iff.1 h
  obtain ⟨_, s₉, hresult, h⟩ := runIn_bind_eq_ok_iff.1 h
  obtain ⟨_, s₁₀, -, h⟩ := runIn_bind_eq_ok_iff.1 h
  obtain ⟨_, s₁₁, houtput, h⟩ := runIn_bind_eq_ok_iff.1 h
  -- Nothing is stored before the source has been read.
  obtain ⟨-, rfl⟩ := Prod.mk.inj htell
  obtain ⟨hc, hfolder⟩ := runIn_loadConfig_eq_ok hconfig
  obtain ⟨rfl, rfl⟩ : around.freshId = runId ∧ s₂ = s₃ := by simpa [runIn_freshId] using hid
  obtain ⟨rfl, rfl⟩ : around.clock = startedAt ∧ s₂ = s₄ := by simpa [runIn_clock] using hclock
  obtain ⟨rfl, rfl⟩ : s₂.folder.load input = file ∧ s₂ = s₅ := by simpa [runIn_load] using hfile
  obtain ⟨rfl, rfl⟩ : around.clock = now ∧ s₂ = s₆ := by simpa [runIn_clock] using hnow
  refine ⟨c, i, hc, ?_, s₁₀.folder, ?_⟩
  · rw [runIn_attempt] at hrun hresult
    have hrun := mapError_eq_ok_iff.1 (Prod.mk.inj hrun).1
    obtain rfl := mapError_eq_ok_iff.1 (Prod.mk.inj hresult).1
    rw [← hfolder]
    exact hrun
  · rw [putOut] at houtput
    obtain ⟨_, s₁₂, hstore, htell⟩ := runIn_bind_eq_ok_iff.1 houtput
    obtain ⟨-, rfl⟩ := Prod.mk.inj htell
    rw [runIn_bind, runIn_tellAll] at h
    obtain ⟨-, rfl⟩ := Prod.mk.inj h
    rw [runIn_store] at hstore
    split at hstore
    · rename_i hfolder'
      obtain ⟨-, rfl⟩ := Prod.mk.inj hstore
      exact hfolder'
    · nomatch (Prod.mk.inj hstore).1

/-- An import succeeds if a run on the file is done and its report can be stored. -/
theorem exists_runIn_importFile {c : Config} {i : Importer} {t : List Char} {folder : Folder}
    {path input output : String} {encoding : Option String} (ht : Config.ofText t = .ok c)
    (hconfig : s.folder.load path = .ok (Text.writeUtf8 t))
    (hrun : (Importer.Setup.ofConfig codecs c encoding).importer.run around.clock input
      (s.folder.load input) = .ok (.ok (), i))
    (hstore : s.folder.store output (Text.writeUtf8
      (i.report around.freshId around.clock).toJson.pretty.toList) = .ok folder)
    (settings : EnvFile.Settings) (validated : Bool) :
    ∃ s', (importFile codecs settings input (some path) (some output) none encoding
      validated).toScript.runIn around s = (successCode, s') := by
  refine ⟨_, runIn_toScript_eq_success_iff.2 (Prod.ext (?_ : _ = Except.ok successCode) rfl)⟩
  rw [importFile, runIn_bind, runIn_tell]
  dsimp only
  rw [runIn_bind, runIn_loadConfig ht (by exact hconfig)]
  simp only [runIn_bind, runIn_freshId, runIn_clock, runIn_load, runIn_attempt]
  generalize hstart : Importer.run _ around.clock input (s.folder.load input) = result
  obtain rfl : .ok (.ok (), i) = result := hrun.symm.trans hstart
  simp only [Failure.ofFault, Failure.ofError, Except.mapError, storeDiagnostics, runIn_pure,
    runIn_tellAll, putOut, runIn_bind, runIn_store, hstore, runIn_tell]

/-- What is told of a file with some valid and some invalid bundles. -/
def verdict (path : String) (valid : Nat) (invalid : List (Nat × List String)) : List String :=
  s!"✔️  Validating: {path}" ::
    (invalid.take shownBundles).flatMap (fun (place, messages) =>
      invalidValueLines place messages) ++
    ["", s!"📊 Results: {valid} valid, {invalid.length} invalid"]

theorem runIn_validate {path : String} {text : List Char} {values : List Json}
    (hfile : s.folder.load path = .ok (Text.writeUtf8 text))
    (hvalues : readBundles text = .ok values) :
    (validate path).toScript.runIn around s =
      (if (Bundle.invalidValues values).isEmpty then successCode else refusedCode, { s with
        told := s.told ++ verdict path (values.length - (Bundle.invalidValues values).length)
          (Bundle.invalidValues values) }) := by
  have hread : (textOf (s.folder.load path)).bind readBundles = .ok values := by
    rw [hfile]
    simp only [textOf, bind, Except.bind, Text.readUtf8?_writeUtf8, hvalues]
  rw [runIn_toScript, validate, runIn_bind, runIn_tell]
  dsimp only
  rw [runIn_bind, runIn_load]
  dsimp only
  rw [runIn_bind, runIn_attempt, hread]
  dsimp only [Failure.ofError, Except.mapError]
  rw [runIn_bind, runIn_tellAll]
  dsimp only
  rw [runIn_bind, runIn_tellAll]
  dsimp only
  rw [runIn_pure]
  simp [verdict]

/-- A text that is validated as some bundles are. -/
structure ValidatesAs (text : List Char) (bundles : List Bundle) : Prop where
  /-- The values that are read break the same rules as the bundles, in the same places. -/
  invalid_eq : ∃ values, readBundles text = .ok values ∧ values.length = bundles.length ∧
    Bundle.invalidValues values = Bundle.invalid bundles
  /-- This is what is told of a file with the text. Every bundle counts as valid or as invalid, and
  the command is a success if none is invalid. -/
  runIn_eq : ∃ valid, valid + (Bundle.invalid bundles).length = bundles.length ∧
    ∀ around (s : Session) path, s.folder.load path = .ok (Text.writeUtf8 text) →
      (validate path).toScript.runIn around s =
        (if Bundle.invalid bundles = [] then successCode else refusedCode,
          { s with told := s.told ++ verdict path valid (Bundle.invalid bundles) })

theorem validatesAs_of_bundleValues {text : List Char} {v : Json} {bundles : List Bundle}
    (htext : v.HeldBy text)
    (hvalues : bundleValues v.normal = .ok (bundles.map fun b => b.toJson.normal)) :
    ValidatesAs text bundles := by
  have hread : readBundles text = .ok (bundles.map fun b => b.toJson.normal) := by
    rw [readBundles, htext]
    exact hvalues
  have hinvalid : Bundle.invalidValues (bundles.map fun b => b.toJson.normal) =
      Bundle.invalid bundles := by
    have hnormal := Bundle.invalidValues_map_normal (bundles.map Bundle.toJson)
    rwa [List.map_map] at hnormal
  have hlength : (bundles.map fun b => b.toJson.normal).length = bundles.length :=
    List.length_map _
  have hle := Bundle.length_invalidValues_le (bundles.map fun b => b.toJson.normal)
  rw [hinvalid, hlength] at hle
  refine ⟨⟨_, hread, hlength, hinvalid⟩, _, Nat.sub_add_cancel hle, fun around s path hfile => ?_⟩
  rw [runIn_validate hfile hread, hinvalid, hlength]
  simp only [List.isEmpty_iff]

/-- Every text that holds a report or the array of its bundles is validated as the bundles are. -/
theorem validatesAs_of_heldBy {text : List Char} {r : Report}
    (h : r.toJson.HeldBy text ∨ (ofList Bundle.toJson r.bundles).HeldBy text) :
    ValidatesAs text r.bundles := by
  rcases h with h | h
  · exact validatesAs_of_bundleValues h (bundleValues_report r)
  · exact validatesAs_of_bundleValues h (bundleValues_ofList r.bundles)

/-! ## Reports of imports -/

/-- The report that an import has stored is validated as the bundles of its run are, and so is the
array of the bundles. Listed are the bundles that the schema does not allow, with all that it says
of them. -/
theorem validates_as_imported {settings : EnvFile.Settings} {input output : String}
    {config report encoding : Option String} {validated : Bool}
    (h : (importFile codecs settings input config (some output) report encoding
      validated).toScript.runIn around s = (successCode, s')) :
    ∃ c i r closed,
      -- The run has been done with a configuration, and this is its report.
      (∃ path, configPath? around settings config = some path ∧
        configOf path (s.folder.load path) = .ok c) ∧
      (Importer.Setup.ofConfig codecs c encoding).importer.run around.clock input
        (s.folder.load input) = .ok (.ok (), i) ∧
      i.state = .done ∧ r = i.report around.freshId around.clock ∧
      -- It is stored, unless nothing is kept of what is stored there.
      (output = Folder.nullDevice ∨
        (∃ name, s'.folder.locate output = .ok (.entry .around name false)) ∨
        s'.folder.load output = .ok (Text.writeUtf8 r.toJson.pretty.toList)) ∧
      (i.stats.Fits → r.toJson.HeldBy r.toJson.pretty.toList ∧
        (ofList Bundle.toJson i.bundles).HeldBy (ofList Bundle.toJson i.bundles).pretty.toList) ∧
      (∀ text, r.toJson.HeldBy text ∨ (ofList Bundle.toJson i.bundles).HeldBy text →
        ValidatesAs text i.bundles) ∧
      -- The bundles that are listed are those that the schema does not allow.
      Schema.Closed.ofJson? Bundle.schemaDocument.normal = some closed ∧
      ∀ place messages, (place, messages) ∈ Bundle.invalid i.bundles ↔
        ∃ b, i.bundles[place]? = some b ∧ closed.allows b.toJson = false ∧
          messages = closed.messages b.toJson := by
  obtain ⟨c, i, ⟨path, hpath, hc⟩, hrun, folder, hstore⟩ :=
    runIn_importFile_eq_ok (runIn_toScript_eq_success_iff.1 h)
  obtain ⟨t, ht⟩ := exists_ofText_of_configOf hc
  have hdone : i.state = .done := by
    cases Importer.run_outcome hrun with
    | completed _ hstate => exact hstate
  have hstep : (Importer.Setup.ofConfig codecs c encoding).importer.step around.clock
      (.run input (s.folder.load input)) = .ok (.ok (), i) := hrun
  have hsteps := Importer.Run.begin.step hstep
  obtain ⟨source, hsource⟩ := hsteps.exists_source hdone
  rw [hsource] at hsteps
  have haccount := (Importer.Run.accounted hsteps).1
  have hbuilt := hsteps.done hdone
  refine ⟨c, i, _, Bundle.closedSchema, ⟨path, hpath, hc⟩, hrun, hdone, rfl,
    Folder.load_of_store hstore, fun hfits => ⟨?_, ?_⟩,
    fun text htext => validatesAs_of_heldBy htext,
    Bundle.ofJson?_schemaDocument, fun place messages => Bundle.mem_invalid_iff_closedSchema⟩
  · have hplain := hbuilt.plain_report haccount (Config.isSound_of_ofText ht)
      (Config.columnCount_le_of_ofText ht) hfits around.freshId around.clock
    exact hplain.heldBy_pretty (by decide)
  · exact (hbuilt.plain_bundles (n := 0) haccount hfits).heldBy_pretty (by decide)

/-- A configuration for verbs, as a text. -/
def verbText : List Char := Json.Writer.compact (Importer.Setup.sample .verb).config.toJson

theorem ofText_verbText : Config.ofText verbText = .ok (Importer.Setup.sample .verb).config := by
  decide +kernel

/-- Two verbs, the first one a single bar. -/
def verbSource : Source := ⟨"x\t|\nx\tut|\"gaon", "utf-8"⟩

/-- The set-up of an import with the configuration. -/
abbrev verbSetup : Importer.Setup :=
  .ofConfig Importer.sampleCodecs (Importer.Setup.sample .verb).config none

/-- A folder with the configuration and the source. -/
def verbSession : Session where
  folder := ⟨SortedMap.ofList [("c.json", Text.writeUtf8 verbText),
    ("w.csv", Text.writeUtf8 verbSource.content.toList)]⟩
  told := []
  output := []

/-- The bar makes a bundle with an empty form, which is not allowed. -/
theorem exists_run_verbSource : ∃ i,
    verbSetup.importer.run "" "w.csv" (verbSession.folder.load "w.csv") = .ok (.ok (), i) ∧
    Bundle.invalid i.bundles = [(0, ["\"\" is shorter than 1 character"])] ∧ i.stats.Fits := by
  have hproviders : verbSetup.providers = [Importer.sampleVerbs] :=
    Importer.Setup.providers_eq Importer.Setup.resolve_sample_verb
  have hresolve : verbSetup.config.resolve verbSetup.reference = .ok verbSetup.providers := by
    rw [hproviders]
    exact Importer.Setup.resolve_sample_verb
  have hfile : verbSession.folder.load "w.csv" =
      .ok (Text.writeUtf8 verbSource.content.toList) := by
    decide +kernel
  have hdecode : Source.decode verbSetup.codecs (Text.writeUtf8 verbSource.content.toList)
      verbSetup.encoding = .ok verbSource :=
    Source.decode_of_readUtf8? (Text.readUtf8?_writeUtf8 _)
  have hresults : verbSetup.results verbSource =
      (buildRows [Importer.sampleVerbs] 0 (verbSetup.rows verbSource) (-1)).toOption.getD [] := by
    rw [Importer.Setup.results, hproviders]
    rfl
  obtain ⟨i, hrun, hbundles, hstats⟩ := Importer.Setup.exists_run_file hresolve hdecode "" "w.csv"
  rw [← hfile] at hrun
  refine ⟨i, hrun, ?_, ?_⟩
  · rw [hbundles, hresults]
    decide +kernel
  · rw [hstats, hresults]
    constructor <;> decide +kernel

/-- The bar is listed when the report is read again. -/
theorem validates_as_imported_bar : ∃ (s' : Session) (bundles : List Bundle) (text : List Char),
    (importFile Importer.sampleCodecs ∅ "w.csv" (some "c.json") (some "r.json") none none
      true).toScript.runIn ⟨∅, "", ""⟩ verbSession = (successCode, s') ∧
    s'.folder.load "r.json" = .ok (Text.writeUtf8 text) ∧ ValidatesAs text bundles ∧
    Bundle.invalid bundles = [(0, ["\"\" is shorter than 1 character"])] ∧
    ((validate "r.json").toScript.runIn ⟨∅, "", ""⟩ s').1 = refusedCode := by
  let around : Surroundings := ⟨∅, "", ""⟩
  have hconfig : verbSession.folder.load "c.json" = .ok (Text.writeUtf8 verbText) := by
    decide +kernel
  obtain ⟨i, hrun, hinvalid, hfits⟩ := exists_run_verbSource
  obtain ⟨folder, hfolder⟩ : ∃ folder, verbSession.folder.store "r.json" (Text.writeUtf8
      (i.report around.freshId around.clock).toJson.pretty.toList) = .ok folder := ⟨_, rfl⟩
  obtain ⟨s', himport⟩ : ∃ s', (importFile Importer.sampleCodecs ∅ "w.csv" (some "c.json")
      (some "r.json") none none true).toScript.runIn around verbSession = (successCode, s') :=
    exists_runIn_importFile ofText_verbText hconfig hrun hfolder ∅ true
  obtain ⟨c, j, r, -, ⟨path, hpath, hc⟩, hrun', -, rfl, hstored, hread, hvalidates, -, -⟩ :=
    validates_as_imported himport
  -- The run is the one on the two verbs.
  obtain rfl : "c.json" = path := Option.some.inj hpath
  rw [hconfig, configOf_writeUtf8 ofText_verbText] at hc
  obtain rfl := Except.ok.inj hc
  obtain rfl : i = j := (Prod.mk.inj (Except.ok.inj (hrun.symm.trans hrun'))).2
  -- Its report is kept.
  have hlocate : s'.folder.locate "r.json" = .ok (.entry (.inside []) "r.json" false) := rfl
  have hkept : s'.folder.load "r.json" =
      .ok (Text.writeUtf8 (i.report "" "").toJson.pretty.toList) := by
    rcases hstored with hnull | ⟨name, haround⟩ | hstored
    · nomatch hnull
    · rw [hlocate] at haround
      nomatch haround
    · exact hstored
  have hvalidated := hvalidates _ (.inl (hread hfits).1)
  obtain ⟨valid, -, hcode⟩ := hvalidated.runIn_eq
  refine ⟨s', i.bundles, _, himport, hkept, hvalidated, hinvalid, ?_⟩
  rw [hcode _ s' "r.json" hkept, hinvalid]
  rfl

end Command

end Wordbook
