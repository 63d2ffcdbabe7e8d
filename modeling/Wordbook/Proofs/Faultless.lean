import Wordbook.Proofs.Bytes
import Wordbook.Proofs.Lifecycle
import Wordbook.Proofs.SingleCell

/-!
# A program that is never at fault

Some things are taken without asking whether they are there: the slots of a
creator, the first slot and the first part, a column that a cell is written to,
the bytes around a block. They always are. What is checked when a configuration
is read and when the providers of a run are set up is enough for that.

* `Importer.takeAll`: steps of a run, one after another (`Importer.Run.exists_takeAll`);
* `Command.program_ends`: the program never ends in the exit code of a fault;
* `Config.faultless`: everything that is taken is there.
-/

namespace Wordbook

namespace Importer

/-- Steps at some times, one after another, with their results. -/
def takeAll (i : Importer) :
    List (String × Step) → Except Fault (List (Except ImportError Unit) × Importer)
  | [] => .ok ([], i)
  | (now, step) :: steps => do
    let (result, i) ← i.step now step
    let (results, i) ← i.takeAll steps
    return (result :: results, i)

/-- However a run goes on, it is without a fault. -/
theorem Run.exists_takeAll {s : Setup} {sources : List Source} {i : Importer}
    (h : Run s sources i) (steps : List (String × Step)) :
    ∃ results j sources', i.takeAll steps = .ok (results, j) ∧ Run s sources' j := by
  induction steps generalizing sources i with
  | nil => exact ⟨[], i, sources, rfl, h⟩
  | cons timed steps ih =>
    obtain ⟨now, step⟩ := timed
    obtain ⟨result, j, hstep⟩ := h.exists_step now step
    obtain ⟨results, k, sources', hsteps, hk⟩ := ih (h.step hstep)
    refine ⟨result :: results, k, sources', ?_, hk⟩
    rw [takeAll, hstep]
    show (j.takeAll steps >>= _) = _
    rw [hsteps]
    rfl

end Importer

namespace Command

variable {c : Config}

theorem cellLexemes_ne_broken (hc : c.IsSound) (tag cell : String) (style : Option NounStyle)
    (dialects : Option String) (fault : Fault) :
    cellLexemes c tag style cell dialects ≠ .error (.broken fault) := by
  intro h
  cases hfound : creatorFor c tag with
  | none =>
    rw [cellLexemes, hfound] at h
    nomatch h
  | some found =>
    obtain ⟨pc, cc⟩ := found
    cases hparadigm : (Reference.ofConfig c.reference).paradigm? tag with
    | none =>
      rw [cellLexemes, hfound, hparadigm] at h
      nomatch h
    | some paradigm =>
      cases hcreator : (withStyle cc style).build.initialise paradigm with
      | error e =>
        unfold cellLexemes at h
        rw [hfound] at h
        dsimp only at h
        rw [hparadigm] at h
        dsimp only at h
        rw [hcreator] at h
        nomatch h
      | ok creator =>
        -- A provider that describes `pc` and has no creators: a cell brings its own.
        let p : Provider := ⟨⟨0, pc.language, ""⟩, pc.orthographyId, pc.toDialects, []⟩
        obtain ⟨result, after, -, hresult⟩ := cellLexemes_eq (p := p) hc
          ((creatorFor_eq_some_iff hc).1 hfound) hparadigm hcreator ⟨rfl, rfl, rfl⟩ cell dialects
        rw [hresult] at h
        cases result <;> nomatch h

theorem exists_ofText_of_configOf {path : String} {file : FileResult}
    (h : configOf path file = .ok c) : ∃ t, Config.ofText t = .ok c := by
  unfold configOf at h
  split at h
  · exact ⟨_, h⟩
  · nomatch h

theorem isSound_of_configOf {path : String} {file : FileResult} (h : configOf path file = .ok c) :
    c.IsSound := by
  obtain ⟨t, ht⟩ := exists_ofText_of_configOf h
  exact Config.isSound_of_ofText ht

/-- A configuration that is loaded has passed the check. -/
theorem yields_loadConfig (settings : EnvFile.Settings) (given : Option String) :
    (loadConfig settings given).Yields Config.IsSound := by
  have hload (path : String) : (loadConfig settings (some path)).Yields Config.IsSound := by
    refine (yields_lift _).bind fun _ _ => (yields_lift _).bind fun file _ => ?_
    exact (yields_ofError _ _).imp fun _ => isSound_of_configOf
  cases given with
  | none =>
    refine (yields_lift _).bind fun path _ => ?_
    cases path with
    | none => exact Sound.refused
    | some path => exact hload path
  | some path => exact hload path

theorem yields_storeDiagnostics (ds : Diagnostics) (report : Option String) :
    (storeDiagnostics ds report).Yields fun _ => True := by
  cases report with
  | none => exact yields_pure trivial
  | some path => exact (yields_store _ _).bind fun _ _ => yields_lift _

theorem yields_putOut (text : String) (output : Option String) :
    (putOut text output).Yields fun _ => True := by
  cases output with
  | none => exact yields_lift _
  | some path => exact (yields_store _ _).bind fun _ _ => yields_lift _

theorem yields_importFile (codecs : Codecs) (settings : EnvFile.Settings) (input : String)
    (config output report encoding : Option String) (validate : Bool) :
    (importFile codecs settings input config output report encoding validate).Yields
      (· ≠ brokenCode) := by
  refine (yields_lift _).bind fun _ _ => (yields_loadConfig settings config).bind fun config _ => ?_
  refine (yields_lift _).bind fun _ _ => (yields_lift _).bind fun _ _ => ?_
  refine (yields_lift _).bind fun file _ => (yields_lift _).bind fun now _ => ?_
  -- The step that the command takes is the first one of a run.
  let setup : Importer.Setup :=
    ⟨config, Reference.ofConfig config.reference, codecs, encoding, fun _ => true, Importer.firstId⟩
  obtain ⟨result, j, hrun⟩ := (Importer.Run.begin (s := setup)).exists_step now (.run input file)
  refine (yields_ofFault hrun).bind fun _ _ => (yields_storeDiagnostics _ _).bind fun _ _ => ?_
  refine (yields_ofError _ _).bind fun _ _ => (yields_tellAll _).bind fun _ _ => ?_
  refine (yields_putOut _ _).bind fun _ _ => (yields_tellAll _).bind fun _ _ => ?_
  exact yields_pure (by decide)

theorem yields_parseCell (settings : EnvFile.Settings) (tag cell : String)
    (style : Option NounStyle) (dialects config : Option String) :
    (parseCell settings tag cell style dialects config).Yields (· ≠ brokenCode) := by
  refine (yields_loadConfig settings config).bind fun config hconfig => ?_
  have hlexemes : (attempt (cellLexemes config tag style cell dialects)).Yields fun _ => True := by
    cases hcell : cellLexemes config tag style cell dialects with
    | ok lexemes => exact Sound.ok trivial
    | error failure =>
      cases failure with
      | refused message => exact Sound.refused
      | broken fault =>
        exact absurd hcell (cellLexemes_ne_broken hconfig tag cell style dialects fault)
  refine hlexemes.bind fun _ _ => (yields_tellAll _).bind fun _ _ => ?_
  exact (yields_lift _).bind fun _ _ => yields_pure (by decide)

theorem yields_checkConfig (codecs : Codecs) (settings : EnvFile.Settings)
    (config : Option String) : (checkConfig codecs settings config).Yields (· ≠ brokenCode) := by
  refine (yields_loadConfig settings config).bind fun config _ => (yields_lift _).bind fun _ _ => ?_
  refine (yields_ofError _ _).bind fun _ _ => (yields_tellAll _).bind fun _ _ => ?_
  exact (yields_lift _).bind fun _ _ => yields_pure (by decide)

theorem yields_validate (input : String) : (validate input).Yields (· ≠ brokenCode) := by
  refine (yields_lift _).bind fun _ _ => (yields_lift _).bind fun _ _ => ?_
  refine (yields_ofError _ _).bind fun values _ => (yields_tellAll _).bind fun _ _ => ?_
  refine (yields_tellAll _).bind fun _ _ => yields_pure ?_
  split <;> decide

theorem yields_invoke (codecs : Codecs) (settings : EnvFile.Settings) (invocation : Invocation) :
    (invoke codecs settings invocation).Yields (· ≠ brokenCode) := by
  cases invocation with
  | importFile => exact yields_importFile ..
  | parseCell => exact yields_parseCell ..
  | checkConfig => exact yields_checkConfig ..
  | validate => exact yields_validate _

/-- The program is never at fault, whatever it is asked for and whatever its files hold. -/
theorem program_ends (codecs : Codecs) (arguments : List String) :
    (program codecs arguments).Ends (· ≠ brokenCode) := by
  refine Script.Ends.bind (EnvFile.settings.ends_true.imp fun settings _ => ?_)
  cases Invocation.read arguments with
  | ok invocation => exact (yields_invoke codecs settings invocation).toScript
  | error misuse =>
    cases misuse with
    | help => exact (by decide : successCode ≠ brokenCode)
    | wrong => exact (by decide : misuseCode ≠ brokenCode)

end Command

/-! ## What is taken -/

/-- There is no paradigm without slots, and the first of them in their order is its base. -/
theorem Paradigm.getElem?_zero_of_ofSlots {pos : PartOfSpeech} {slots : List Slot} {p : Paradigm}
    (h : ofSlots pos slots = .ok p) : (order slots)[0]? = some p.base := by
  obtain ⟨-, -, hslots⟩ := ofSlots_eq_ok_iff.1 h
  rw [← hslots, ← List.head?_eq_getElem?, head?_slots]

/-- What is reported of bundles that are not valid, and where they stand. -/
theorem Bundle.mem_invalid_iff {bundles : List Bundle} {place : Nat} {messages : List String} :
    (place, messages) ∈ invalid bundles ↔ messages ≠ [] ∧
      ∃ b, bundles[place]? = some b ∧ schema.messages b.toJson = messages := by
  simp [invalid, invalidValues, List.mem_zipIdx_iff_getElem?, and_comm]

/-- Whatever is taken without asking for it is there. -/
structure Config.Faultless (c : Config) : Prop where
  /-- Creators are initialised before they are used: no step of a run comes to a fault, -/
  takeAll : ∀ reference codecs encoding keep first steps, ∃ results i,
    (Importer.Setup.importer ⟨c, reference, codecs, encoding, keep, first⟩).takeAll steps =
      .ok (results, i)
  /-- and neither does a single cell. -/
  cellLexemes : ∀ tag style cell dialects fault,
    Command.cellLexemes c tag style cell dialects ≠ .error (.broken fault)
  /-- The columns that a single cell is written to are inside its row. -/
  cellRow : ∀ pc ∈ c.providers, ∀ cc ∈ pc.creators, ∀ style cell dialects, ∃ row,
    Command.cellRow c (Command.withStyle cc style) cell dialects = .ok row
  /-- Slots that make a paradigm have a first one, its base. -/
  base : ∀ pos slots p, Paradigm.ofSlots pos slots = .ok p →
    (Paradigm.order slots)[0]? = some p.base
  /-- A cell can be cut where its block begins, -/
  parts : ∀ cell expected,
    Cell.partsAt? cell expected = some ((Cell.Parts.ofCell cell expected).map Cell.Parts.toList)
  /-- and whatever parts it has, there is a first one. -/
  first : ∀ cell expected ps, Cell.partsAt? cell expected = some (.ok ps) →
    ∃ parts, Cell.Parts.ofCell cell expected = .ok parts ∧ ps[0]? = some parts.first
  /-- The bounds of a block are in order, inside the text and between two characters. -/
  trailingBlock : ∀ text, Cell.trailingBlockAt? text = some (Cell.trailingBlock text)
  /-- A bundle that is reported as invalid is one of those that were checked. -/
  invalid : ∀ bundles, ∀ report ∈ Bundle.invalid bundles, ∃ b, bundles[report.1]? = some b
  /-- So no command ends in the exit code of a fault, whatever it finds around it. -/
  program : ∀ codecs arguments, (Command.program codecs arguments).Ends (· ≠ Command.brokenCode)

namespace Config

/-- The check of a configuration and the types of what is made of it leave no room for a fault. -/
theorem faultless {t : List Char} {c : Config} (ht : ofText t = .ok c) : c.Faultless where
  takeAll reference codecs encoding keep first steps := by
    obtain ⟨results, i, -, hsteps, -⟩ := (Importer.Run.begin
      (s := ⟨c, reference, codecs, encoding, keep, first⟩)).exists_takeAll steps
    exact ⟨results, i, hsteps⟩
  cellLexemes tag style cell dialects :=
    Command.cellLexemes_ne_broken (isSound_of_ofText ht) tag cell style dialects
  cellRow pc hpc cc hcc style cell dialects := by
    have hc := isSound_of_ofText ht
    have hcolumns : ∀ k ∈ (Command.withStyle cc style).columns, k < c.columnCount := by
      simpa [CreatorConfig.columns] using (hc.providers pc hpc).columns cc hcc
    obtain ⟨row, hrow, -⟩ := Command.exists_cellRow hc.posColumn_lt hcolumns cell dialects
    exact ⟨row, hrow⟩
  base _ _ _ h := Paradigm.getElem?_zero_of_ofSlots h
  parts := Cell.partsAt?_eq
  first _ _ _ h := Cell.getElem?_zero_of_partsAt? h
  trailingBlock := Cell.trailingBlockAt?_eq
  invalid bundles report hreport := by
    obtain ⟨-, b, hb, -⟩ := Bundle.mem_invalid_iff.1 hreport
    exact ⟨b, hb⟩
  program := Command.program_ends

/-- A run that is called too early and then has no slots to fill, and a cell with a block. -/
theorem faultless_tried :
    ofText triedText = .ok .tried ∧
    (∃ i, (Importer.Setup.importer
        ⟨.tried, .ofConfig ⟨[], []⟩, Importer.sampleCodecs, none, fun _ => true, -1⟩).takeAll
      [("", .build), ("", .run "w.csv" (.ok []))] =
        .ok ([.error (.wrongState "build" .reading .uninitialised),
          .error (.setup (.noSlots "n"))], i)) ∧
    (∃ row, Command.cellRow .tried .tried "öög (n)" (some "wf") = .ok row ∧
      row.cells = ["n", "öög (n)", "wf"]) ∧
    Cell.trailingBlockAt? ['ö', 'ö', 'g', ' ', '(', 'n', ')'] =
      some (some (['ö', 'ö', 'g'], ['n'])) ∧
    ((Command.program Importer.sampleCodecs
      ["parse-cell", "-p", "n", "-c", "c.json", "öög (n)"]).runIn ⟨∅, "", ""⟩ .tried).1 ≠
        Command.brokenCode := by
  have h := faultless ofText_tried
  refine ⟨ofText_tried, ?_, ?_, (h.trailingBlock _).trans rfl, (h.program _ _).runIn _ _⟩
  · obtain ⟨results, i, hsteps⟩ := h.takeAll (.ofConfig ⟨[], []⟩) Importer.sampleCodecs none
      (fun _ => true) (-1) [("", .build), ("", .run "w.csv" (.ok []))]
    have hresults : (.ok results : Except Fault _) = .ok [.error (.wrongState "build" .reading
        .uninitialised), .error (.setup (.noSlots "n"))] :=
      (congrArg (Except.map Prod.fst) hsteps).symm.trans rfl
    obtain rfl := Except.ok.inj hresults
    exact ⟨i, hsteps⟩
  · obtain ⟨row, hrow⟩ := h.cellRow .tried List.mem_cons_self .tried List.mem_cons_self none
      "öög (n)" (some "wf")
    obtain rfl := Except.ok.inj (hrow.symm.trans rfl)
    exact ⟨_, hrow, rfl⟩

end Config

end Wordbook
