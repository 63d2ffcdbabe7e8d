import Wordbook.Proofs.Blanks
import Wordbook.Proofs.Check
import Wordbook.Proofs.Rows
import Wordbook.Proofs.Script
import Wordbook.Proofs.Utf8

/-!
# Single cells

A cell can be tried by a command, without a source. What the command puts out is
what an import makes of the row that holds the cell. A cell is refused where its
row is, with the same words.

* `Config.HasFirst`: the provider that a cell is tried with, and its creator;
* `Config.singleRow`: the row of a single cell, as it comes from a source;
* `Command.parses_as_imported`: what the command shows.
-/

namespace Wordbook

/-- The first provider of a configuration with a creator for a part of speech, and the creator. -/
structure Config.HasFirst (c : Config) (tag : String) (pc : ProviderConfig) (cc : CreatorConfig) :
    Prop where
  first : ∃ before after, c.providers = before ++ pc :: after ∧
    ∀ q ∈ before, ∀ dd ∈ q.creators, dd.tag ≠ tag
  mem_creators : cc ∈ pc.creators
  tag_eq : cc.tag = tag

/-- A provider that is set up as its configuration has it, whichever creators are ready. -/
structure ProviderConfig.Describes (pc : ProviderConfig) (p : Provider) : Prop where
  code_eq : p.language.code = pc.language
  orthographyId_eq : p.orthographyId = pc.orthographyId
  dialects_eq : p.dialects = pc.toDialects

/-- The lexemes of a provider hang on what its configuration has of it alone. -/
theorem ProviderConfig.Describes.lexemes_eq {pc : ProviderConfig} {p q : Provider}
    (hp : pc.Describes p) (hq : pc.Describes q) : q.lexemes = p.lexemes := by
  funext bound tag row
  rw [Provider.lexemes, Provider.lexemes, Provider.label, Provider.label, hp.code_eq, hq.code_eq,
    hp.orthographyId_eq, hq.orthographyId_eq, hp.dialects_eq, hq.dialects_eq]

/-- The providers of an import are set up so. -/
theorem ProviderConfig.describes_of_resolve {pc : ProviderConfig} {rc : ReferenceConfig}
    {table : Paradigm.Table} {p : Provider}
    (h : pc.resolve (Reference.ofConfig rc) table = .ok p) : pc.Describes p := by
  unfold resolve at h
  split at h
  · nomatch h
  · rename_i language hlanguage
    obtain ⟨creators, -, h⟩ := bind_eq_ok_iff.1 h
    obtain rfl := Except.ok.inj h
    rw [Reference.language?, Reference.ofConfig, SortedMap.get?_ofList] at hlanguage
    obtain ⟨l, -, heq⟩ := List.mem_map.1 (List.mem_reverse.1 (mem_of_lookup hlanguage))
    obtain ⟨hcode, rfl⟩ := Prod.mk.inj heq
    exact ⟨hcode, rfl, rfl⟩

theorem Config.describes_of_resolve {c : Config} {rc : ReferenceConfig} {ps : List Provider}
    (h : c.resolve (Reference.ofConfig rc) = .ok ps) :
    List.Forall₂ ProviderConfig.Describes c.providers ps := by
  obtain ⟨table, -, hps⟩ := bind_eq_ok_iff.1 h
  exact (mapM_eq_ok_iff.1 hps).imp fun _ _ hp => ProviderConfig.describes_of_resolve hp

namespace Command

variable {c : Config} {tag : String} {pc : ProviderConfig} {cc : CreatorConfig}

theorem creatorFor_eq_some_iff (hc : c.IsSound) :
    creatorFor c tag = some (pc, cc) ↔ c.HasFirst tag pc cc := by
  have hnone (q : ProviderConfig) :
      ((q.creators.find? (·.tag == tag)).map fun creator => (q, creator)) = none ↔
        ∀ dd ∈ q.creators, dd.tag ≠ tag := by
    simp
  constructor
  · intro h
    obtain ⟨before, q, after, hproviders, hq, hbefore⟩ := List.findSome?_eq_some_iff.1 h
    obtain ⟨dd, hfind, heq⟩ := Option.map_eq_some_iff.1 hq
    obtain ⟨rfl, rfl⟩ := Prod.mk.inj heq
    exact ⟨⟨before, after, hproviders, fun q hq => (hnone q).1 (hbefore q hq)⟩,
      List.mem_of_find?_eq_some hfind, by simpa using List.find?_some hfind⟩
  · rintro ⟨⟨before, after, hproviders, hbefore⟩, hmem, rfl⟩
    have hpc : pc ∈ c.providers := by rw [hproviders]; simp
    have hfind : pc.creators.find? (·.tag == cc.tag) = some cc := by
      obtain ⟨earlier, later, hcreators⟩ := List.append_of_mem hmem
      have htags := (hc.providers pc hpc).tags
      rw [hcreators, List.pairwise_append] at htags
      refine List.find?_eq_some_iff_append.2 ⟨beq_self_eq_true _, earlier, later, hcreators,
        fun dd hdd => ?_⟩
      simpa using htags.2.2 dd hdd cc List.mem_cons_self
    refine List.findSome?_eq_some_iff.2
      ⟨before, pc, after, hproviders, ?_, fun q hq => (hnone q).2 (hbefore q hq)⟩
    rw [hfind, Option.map_some]

@[simp] theorem tag_withStyle (cc : CreatorConfig) (style : Option NounStyle) :
    (withStyle cc style).tag = cc.tag := by
  unfold withStyle
  split
  · rfl
  · split <;> rfl

@[simp] theorem column_withStyle (cc : CreatorConfig) (style : Option NounStyle) :
    (withStyle cc style).column = cc.column := by
  unfold withStyle
  split
  · rfl
  · split <;> rfl

@[simp] theorem dialectColumn_withStyle (cc : CreatorConfig) (style : Option NounStyle) :
    (withStyle cc style).dialectColumn = cc.dialectColumn := by
  unfold withStyle
  split
  · rfl
  · split <;> rfl

end Command

/-! ## The row of a cell -/

namespace Config

/-- The text of a column in the row of a single cell. Where columns coincide, the dialects go before
the cell, and the cell before the part of speech. -/
def singleText (c : Config) (cc : CreatorConfig) (cell : String) (dialects : Option String)
    (k : Nat) : String :=
  let text := if cc.column = k then cell else if c.posColumn = k then cc.tag else ""
  if cc.dialectColumn = some k then dialects.getD text else text

/-- The row of a single cell, as it comes from a source: without the blanks around its cells. -/
def singleRow (c : Config) (cc : CreatorConfig) (cell : String) (dialects : Option String) : Row :=
  ⟨1, (List.range c.columnCount).map fun k =>
    String.ofList (Text.trim (c.singleText cc cell dialects k).toList)⟩

theorem singleRow_of_dialectColumn_none {c : Config} {cc : CreatorConfig}
    (h : cc.dialectColumn = none) (cell : String) (dialects other : Option String) :
    c.singleRow cc cell other = c.singleRow cc cell dialects := by
  simp [singleRow, singleText, h]

end Config

namespace Command

variable {c : Config} {tag : String} {pc : ProviderConfig} {cc : CreatorConfig}

theorem putCell_of_lt {cells : List String} {column : Nat} (h : column < cells.length)
    (text : String) : putCell cells column text = .ok (cells.set column text) :=
  if_pos h

/-- The cells of a single cell before its dialects are written. -/
def plainCells (c : Config) (cc : CreatorConfig) (cell : String) : List String :=
  ((List.replicate c.columnCount "").set c.posColumn cc.tag).set cc.column cell

theorem cellRow_eq (hpos : c.posColumn < c.columnCount) (hcolumn : cc.column < c.columnCount)
    (cell : String) (dialects : Option String) :
    cellRow c cc cell dialects = (match dialects, cc.dialectColumn with
      | some text, some column => putCell (plainCells c cc cell) column text
      | _, _ => .ok (plainCells c cc cell)).map (Row.padded 1 · c.columnCount) := by
  unfold cellRow
  dsimp only
  rw [putCell_of_lt (by simpa using hpos)]
  show (putCell _ _ _ >>= _) = _
  rw [putCell_of_lt (by simpa using hcolumn)]
  cases dialects with
  | none => rfl
  | some text =>
    cases cc.dialectColumn with
    | none => rfl
    | some column =>
      show (putCell (plainCells c cc cell) _ _ >>= _) = (putCell _ _ _).map _
      cases putCell (plainCells c cc cell) column text <;> rfl

/-- All columns that the command writes to are there. -/
theorem exists_cellRow (hpos : c.posColumn < c.columnCount)
    (hcolumns : ∀ k ∈ cc.columns, k < c.columnCount) (cell : String) (dialects : Option String) :
    ∃ row, cellRow c cc cell dialects = .ok row ∧ row.trimmed = c.singleRow cc cell dialects := by
  have hrow {cells : List String} (hlength : cells.length = c.columnCount)
      (hcells : ∀ k (hk : k < cells.length), cells[k] = c.singleText cc cell dialects k) :
      (Row.padded 1 cells c.columnCount).trimmed = c.singleRow cc cell dialects := by
    have heq : cells = (List.range c.columnCount).map (c.singleText cc cell dialects) :=
      List.ext_getElem (by simp [hlength]) fun k hk _ => by simp [hcells k hk]
    rw [Row.padded, hlength, Nat.sub_self, List.replicate_zero, List.append_nil, Row.trimmed, heq,
      List.map_map, Config.singleRow]
    rfl
  have hplain (h : ∀ k text,
      (if cc.dialectColumn = some k then dialects.getD text else text) = text) :
      (Row.padded 1 (plainCells c cc cell) c.columnCount).trimmed =
        c.singleRow cc cell dialects := by
    refine hrow (by simp [plainCells]) fun k hk => ?_
    simp [plainCells, List.getElem_set, Config.singleText, h]
  rw [cellRow_eq hpos (hcolumns _ List.mem_cons_self)]
  cases dialects with
  | none => exact ⟨_, rfl, hplain fun k text => ite_self _⟩
  | some text =>
    cases hcolumn : cc.dialectColumn with
    | none => exact ⟨_, rfl, hplain fun k text => by simp [hcolumn]⟩
    | some column =>
      have hlt : column < c.columnCount := hcolumns _ (by simp [CreatorConfig.columns, hcolumn])
      dsimp only
      rw [putCell_of_lt (by simpa [plainCells] using hlt)]
      refine ⟨_, rfl, hrow (by simp [plainCells]) fun k hk => ?_⟩
      simp [plainCells, List.getElem_set, Config.singleText, hcolumn]

/-! ## What is shown -/

theorem exists_createLexemes {creator : Creator} {style : Option NounStyle} {paradigm : Paradigm}
    (h : (withStyle cc style).build.initialise paradigm = .ok creator) (label : String)
    (orthographyId : Int64) (row : Row) :
    ∃ creation, creator.createLexemes label orthographyId row = .ok creation := by
  obtain ⟨slots, -, rfl⟩ := map_eq_ok_iff.1 h
  exact ⟨_, rfl⟩

/-- What a single cell comes to is what an import makes of its row. -/
theorem cellLexemes_eq {style : Option NounStyle} {paradigm : Paradigm} {creator : Creator}
    {p : Provider} (hc : c.IsSound) (hfirst : c.HasFirst tag pc cc)
    (hparadigm : (Reference.ofConfig c.reference).paradigm? tag = some paradigm)
    (hcreator : (withStyle cc style).build.initialise paradigm = .ok creator)
    (hp : pc.Describes p) (cell : String) (dialects : Option String) :
    ∃ result after,
      p.lexemes ⟨creator, cc.dialectColumn⟩ tag (c.singleRow cc cell dialects)
        ⟨Importer.firstId, []⟩ = .ok (result, after) ∧
      cellLexemes c tag style cell dialects = match result with
        | .ok lexemes => .ok (lexemes, after.diagnostics)
        | .error failure => .error (.refused failure.error.message) := by
  have hpc : pc ∈ c.providers := by
    obtain ⟨before, after, hproviders, -⟩ := hfirst.first
    rw [hproviders]
    simp
  have hcolumns : ∀ k ∈ (withStyle cc style).columns, k < c.columnCount := by
    simpa [CreatorConfig.columns] using (hc.providers pc hpc).columns cc hfirst.mem_creators
  obtain ⟨row, hrow, htrimmed⟩ := exists_cellRow hc.posColumn_lt hcolumns cell dialects
  obtain ⟨creation, hcreation⟩ := exists_createLexemes hcreator (p.label tag) p.orthographyId row
  have hlabel : s!"{pc.language}/{tag}" = p.label tag := by rw [Provider.label, hp.code_eq]
  have hsingle : c.singleRow (withStyle cc style) cell dialects = c.singleRow cc cell dialects := by
    simp [Config.singleRow, Config.singleText]
  rw [← hsingle, ← htrimmed, Provider.lexemes_trimmed, Provider.lexemes_apply hcreation]
  have hparse : cellLexemes c tag style cell dialects =
      (Failure.ofError CellError.message ((creation ⟨Importer.firstId, []⟩).1.bind fun lexemes =>
        lexemes.mapM fun variants => p.dialects.distribute variants row cc.dialectColumn)).map
          (·, (creation ⟨Importer.firstId, []⟩).2.diagnostics) := by
    unfold cellLexemes
    rw [(creatorFor_eq_some_iff hc).2 hfirst]
    dsimp only
    rw [hparadigm]
    dsimp only
    rw [hcreator, hrow, hlabel, ← hp.orthographyId_eq, ← hp.dialects_eq, dialectColumn_withStyle]
    show (Failure.ofFault (creator.createLexemes _ _ row) >>= _) = _
    rw [hcreation]
    rfl
  rw [hparse]
  rcases creation ⟨Importer.firstId, []⟩ with ⟨e | created, after⟩
  · exact ⟨_, _, rfl, rfl⟩
  · refine ⟨_, _, rfl, ?_⟩
    show Except.map _ (Failure.ofError _ (created.mapM fun variants =>
      p.dialects.distribute variants row cc.dialectColumn)) = _
    cases created.mapM fun variants => p.dialects.distribute variants row cc.dialectColumn <;> rfl

variable {around : Surroundings} {s : Session} {path : String} {t : List Char}

theorem configOf_writeUtf8 (ht : Config.ofText t = .ok c) (path : String) :
    configOf path (.ok (Text.writeUtf8 t)) = .ok c := by
  simp only [configOf, textOf, bind, Except.bind, Text.readUtf8?_writeUtf8, ht]

/-- A configuration is loaded from the file that is named. -/
theorem runIn_loadConfig (ht : Config.ofText t = .ok c)
    (hfile : s.folder.load path = .ok (Text.writeUtf8 t)) (settings : EnvFile.Settings) :
    (loadConfig settings (some path)).runIn around s =
      (.ok c, { s with told := s.told ++ [s!"⚙️  Config: {path}"] }) := by
  show (Failure.ofError ConfigError.message (configOf path (s.folder.load path)), _) = _
  rw [hfile, configOf_writeUtf8 ht]
  rfl

theorem runIn_parseCell (ht : Config.ofText t = .ok c)
    (hfile : s.folder.load path = .ok (Text.writeUtf8 t)) (settings : EnvFile.Settings)
    (tag cell : String) (style : Option NounStyle) (dialects : Option String) :
    (parseCell settings tag cell style dialects (some path)).toScript.runIn around s =
      match cellLexemes c tag style cell dialects with
      | .ok (lexemes, diagnostics) => (successCode, { s with
          told := s.told ++ s!"⚙️  Config: {path}" :: diagnostics.map fun d => "   " ++ d.render
          output := s.output ++ [(Json.ofList (Json.ofList Variant.toJson) lexemes).pretty] })
      | .error (.refused message) => (refusedCode, { s with
          told := s.told ++ [s!"⚙️  Config: {path}", s!"❌ Error: {message}"] })
      | .error (.broken fault) => (brokenCode, { s with
          told := s.told ++ [s!"⚙️  Config: {path}", fault.message] }) := by
  rw [runIn_toScript, parseCell, runIn_bind, runIn_loadConfig ht hfile]
  dsimp only
  rw [runIn_bind, runIn_attempt]
  rcases cellLexemes c tag style cell dialects with (message | fault) | ⟨lexemes, diagnostics⟩
  · simp
  · simp
  · dsimp only
    rw [runIn_bind, runIn_tellAll]
    dsimp only
    rw [runIn_bind, runIn_put]
    dsimp only
    rw [runIn_pure]
    simp

/-- The exit code and the session that the command ends in, by what is made of the cell. -/
def shown (s : Session) (path : String) :
    Except RowFailure (List (List Variant)) → Ledger → Nat × Session
  | .ok lexemes, after => (successCode, { s with
      told := s.told ++ s!"⚙️  Config: {path}" :: after.diagnostics.map fun d => "   " ++ d.render
      output := s.output ++ [(Json.ofList (Json.ofList Variant.toJson) lexemes).pretty] })
  | .error failure, _ => (refusedCode, { s with
      told := s.told ++ [s!"⚙️  Config: {path}", s!"❌ Error: {failure.error.message}"] })

/-- The command tries a cell with the first creator for its part of speech, whose style may be
overridden. It puts out the lexemes that an import makes of the row of the cell, or shows why it
would be refused there. Without a dialect column, dialects are passed over by both. The provider
that an import sets up in the place of the first one makes the same of the row. -/
theorem parses_as_imported {style : Option NounStyle} {paradigm : Paradigm} {creator : Creator}
    {p : Provider} (ht : Config.ofText t = .ok c)
    (hfile : s.folder.load path = .ok (Text.writeUtf8 t)) (hfirst : c.HasFirst tag pc cc)
    (hparadigm : (Reference.ofConfig c.reference).paradigm? tag = some paradigm)
    (hcreator : (withStyle cc style).build.initialise paradigm = .ok creator)
    (hp : pc.Describes p) (settings : EnvFile.Settings) (cell : String)
    (dialects : Option String) :
    let run (dialects : Option String) :=
      (parseCell settings tag cell style dialects (some path)).toScript.runIn around s
    let make (p : Provider) (dialects : Option String) :=
      p.lexemes ⟨creator, cc.dialectColumn⟩ tag (c.singleRow cc cell dialects)
        ⟨Importer.firstId, []⟩
    (∃ result after, make p dialects = .ok (result, after) ∧
      run dialects = shown s path result after) ∧
      (cc.dialectColumn = none →
        ∀ other, make p other = make p dialects ∧ run other = run dialects) ∧
      ∀ ps, c.resolve (Reference.ofConfig c.reference) = .ok ps →
        List.Forall₂ (fun config q => config = pc → make q = make p) c.providers ps := by
  intro run make
  have hrun (dialects : Option String) : ∃ result after, make p dialects = .ok (result, after) ∧
      run dialects = shown s path result after := by
    obtain ⟨result, after, hmake, hlexemes⟩ :=
      cellLexemes_eq (Config.isSound_of_ofText ht) hfirst hparadigm hcreator hp cell dialects
    refine ⟨result, after, hmake, (runIn_parseCell ht hfile settings ..).trans ?_⟩
    rw [hlexemes]
    cases result <;> rfl
  refine ⟨hrun dialects, fun hnone other => ?_, fun ps hps => ?_⟩
  · have hmake : make p other = make p dialects := by
      show p.lexemes _ _ (c.singleRow cc cell other) _ = _
      rw [Config.singleRow_of_dialectColumn_none hnone cell dialects other]
    obtain ⟨result, after, hother, hrun'⟩ := hrun other
    obtain ⟨result', after', hdialects, hrun⟩ := hrun dialects
    obtain ⟨rfl, rfl⟩ := Prod.mk.inj (Except.ok.inj (hother.symm.trans (hmake.trans hdialects)))
    exact ⟨hmake, hrun'.trans hrun.symm⟩
  · refine (Config.describes_of_resolve hps).imp fun config q hq hconfig => ?_
    rw [hconfig] at hq
    funext dialects
    show q.lexemes _ _ _ _ = p.lexemes _ _ _ _
    rw [hp.lexemes_eq hq]

end Command

def Paradigm.tried : Paradigm := ⟨⟨1, "n"⟩, [⟨10, "singular", 1⟩, ⟨11, "plural", 2⟩], by decide⟩

def CreatorConfig.tried : CreatorConfig := ⟨"n", .noun .genusSuffix, 1, some 2⟩

def ProviderConfig.tried : ProviderConfig := ⟨"nds", 5, ∅, SortedMap.singleton "wf" 2, [.tried]⟩

/-- A language with one creator, for nouns with a singular and a plural. -/
def Config.tried : Config where
  separator := '\t'
  columnCount := 3
  minColumnCount := 0
  skipLines := ∅
  posColumn := 0
  reference := ⟨[⟨1, "nds", ""⟩], [⟨1, "n", Paradigm.tried.slots⟩]⟩
  providers := [.tried]

def Config.triedText : List Char := Json.Writer.compact Config.tried.toJson

theorem Config.ofText_tried : ofText triedText = .ok tried := by
  decide +kernel

/-- A folder that holds the configuration. -/
def Session.tried : Session :=
  ⟨⟨SortedMap.singleton "c.json" (Text.writeUtf8 Config.triedText)⟩, [], []⟩

def Variant.tried : Variant where
  id := -1
  orthographyId := 5
  main := true
  dialectIds := some (SortedSet.singleton 2)
  forms := [⟨some (-1), 10, "deern", .typed⟩, ⟨some (-1), 11, "deerns", .generated⟩]
  properties := SortedMap.singleton "genera" (SortedSet.singleton "f")
  active := true
  action := .insert

/-- The style is overridden, and blanks surround the cell and its dialects. -/
theorem Command.parses_as_imported_overridden :
    (parseCell ∅ "n" " de deern, -s " (some .articlePrefix) (some " wf ")
      (some "c.json")).toScript.runIn ⟨∅, "", ""⟩ .tried =
      shown .tried "c.json" (.ok [[.tried]]) ⟨⟨-1, 1⟩, []⟩ := by
  have hfile : Session.tried.folder.load "c.json" = .ok (Text.writeUtf8 Config.triedText) := rfl
  have hfirst : Config.tried.HasFirst "n" .tried .tried :=
    ⟨⟨[], [], rfl, nofun⟩, List.mem_cons_self, rfl⟩
  have hparadigm : (Reference.ofConfig Config.tried.reference).paradigm? "n" = some .tried := by
    show (Paradigm.ofSlots _ Paradigm.tried.slots).toOption = _
    rw [Paradigm.ofSlots_of_pairwise (by decide) (by decide)]
    rfl
  have hcreator : (withStyle .tried (some .articlePrefix)).build.initialise .tried =
      .ok ⟨"n", 1, .noun .articlePrefix, some ⟨⟨10, "singular", 1⟩, ⟨11, "plural", 2⟩⟩⟩ := rfl
  have hp : ProviderConfig.tried.Describes
      ⟨⟨1, "nds", ""⟩, 5, ProviderConfig.tried.toDialects, []⟩ := ⟨rfl, rfl, rfl⟩
  obtain ⟨⟨result, after, hmake, hrun⟩, -⟩ :=
    parses_as_imported Config.ofText_tried hfile hfirst hparadigm hcreator hp ∅ " de deern, -s "
      (some " wf ")
  have hresult : (.ok (result, after) : Except Fault _) = .ok (.ok [[.tried]], ⟨⟨-1, 1⟩, []⟩) :=
    hmake.symm.trans rfl
  obtain ⟨rfl, rfl⟩ := Prod.mk.inj (Except.ok.inj hresult)
  exact hrun

end Wordbook
